import TransitionNetwork.Proofs.Actions
import TransitionNetwork.Proofs.Places

/-!
# Making directories

A directory is made together with those above it. Whether that succeeds or fails, nothing changes
but missing places on the path, which become directories. If it succeeds, every place on the path is
a directory, and making it again changes nothing.
-/

set_option autoImplicit false

namespace TransitionNetwork

namespace Path

/-- The place of a leading part of a path is passed on the way. -/
theorem foldl_step_mem_route_append (start : Place) (front back : List String) :
    front.foldl step start ∈
      route start (front ++ back) ++ [(front ++ back).foldl step start] := by
  rw [route_append, List.foldl_append]
  cases back with
  | nil => simp [route]
  | cons name back => simp [route]

/-- Above a path there are only leading parts of it, written again. -/
theorem mem_ancestors {path other : String} (member : other ∈ ancestors path) :
    other = path ∨ ∃ front, front ≠ [] ∧ front <+: parts path ∧
      other = ofParts (isAbsolute path) front := by
  unfold ancestors at member
  dsimp only at member
  split at member
  · cases member
  · rename_i whole above leading
    rcases List.mem_cons.mp member with rfl | higher
    · exact Or.inl rfl
    · obtain ⟨front, inside, rfl⟩ := List.mem_map.mp higher
      have kept : front ∈ whole :: above := List.mem_cons_of_mem _ inside
      rw [← leading] at kept
      obtain ⟨count, below, rfl⟩ := List.mem_map.mp (List.mem_filter.mp kept).1
      rw [List.mem_reverse, List.mem_range] at below
      refine Or.inr ⟨_, ?_, List.take_prefix _ _, rfl⟩
      apply List.ne_nil_of_length_pos
      rw [List.length_take]
      omega

theorem place_mem_passed_of_mem_ancestors {path other : String}
    (member : other ∈ ancestors path) : place other ∈ passed path := by
  rcases mem_ancestors member with rfl | ⟨front, _, lead, rfl⟩
  · exact List.mem_append_right _ (List.mem_singleton.mpr rfl)
  · have written := parts_ofParts (isAbsolute path) (isPart_of_sublist_parts lead.sublist)
    obtain ⟨back, split⟩ := lead
    rw [place, written, passed, place, ← split]
    exact foldl_step_mem_route_append [] front back

/-- Only a path of nothing but dots has no ancestors. -/
theorem eq_dot_of_ancestors_eq_nil {path : String} (alone : ancestors path = []) :
    ∀ name ∈ parts path, name = "." := by
  intro name member
  refine Decidable.byContradiction fun other => ?_
  obtain ⟨front, back, split⟩ := List.append_of_mem member
  have own : front ++ [name] ∈ ((List.range (parts path).length).reverse.map fun count =>
      (parts path).take (count + 1)).filter (isOwnPlace (isAbsolute path)) := by
    rw [List.mem_filter, List.mem_map]
    refine ⟨⟨front.length, ?_, ?_⟩, ?_⟩
    · simp [split]
    · rw [split, List.take_append, List.take_of_length_le (Nat.le_succ _)]
      simp
    · simp [isOwnPlace, other]
  unfold ancestors at alone
  dsimp only at alone
  split at alone
  · rename_i none
    rw [none] at own
    cases own
  · cases alone

theorem passed_eq_top {path : String} (dots : ∀ name ∈ parts path, name = ".") :
    ∀ place ∈ passed path, place = [] := by
  have stays (names : List String) (all : ∀ name ∈ names, name = ".") :
      ∀ place ∈ route [] names ++ [names.foldl step []], place = [] := by
    induction names with
    | nil => simp [route]
    | cons name names ih =>
        obtain ⟨rfl, others⟩ := List.forall_mem_cons.mp all
        have here : step [] "." = [] := if_pos rfl
        rw [route, List.foldl_cons, here, List.cons_append, List.forall_mem_cons]
        exact ⟨rfl, ih others⟩
  exact stays (parts path) dots

end Path

namespace FileTree

open TransitionNetwork.Path

variable {tree after : FileTree}

/-- Every place on the path is there and is a directory. -/
structure HasDirectory (tree : FileTree) (path : String) : Prop where
  nul_notMem : '\x00' ∉ path.toList
  short : ∀ name ∈ parts path, name.utf8ByteSize ≤ longestName
  directories : ∀ place ∈ passed path, tree.entry? place = some .directory

/-- Some missing places have become directories, and nothing else has changed. -/
structure GrowsTo (places : List Place) (tree after : FileTree) : Prop where
  pathLimit_eq : after.pathLimit = tree.pathLimit
  grown : ∀ place, after.entry? place = tree.entry? place ∨
    place ∈ places ∧ tree.entry? place = none ∧ after.entry? place = some .directory

namespace GrowsTo

variable {places others : List Place}

theorem refl (places : List Place) (tree : FileTree) : GrowsTo places tree tree :=
  ⟨rfl, fun _ => Or.inl rfl⟩

theorem trans {middle : FileTree} (first : GrowsTo places tree middle)
    (second : GrowsTo places middle after) : GrowsTo places tree after := by
  refine ⟨second.pathLimit_eq.trans first.pathLimit_eq, ?_⟩
  intro place
  rcases first.grown place with kept | ⟨_, missing, made⟩
  · rw [← kept]
    exact second.grown place
  · rcases second.grown place with kept | ⟨_, missing', _⟩
    · exact Or.inr ⟨‹_›, missing, kept.trans made⟩
    · rw [made] at missing'
      cases missing'

theorem mono (more : ∀ place ∈ places, place ∈ others) (grows : GrowsTo places tree after) :
    GrowsTo others tree after := by
  refine ⟨grows.pathLimit_eq, ?_⟩
  intro place
  exact (grows.grown place).imp_right fun made => ⟨more place made.1, made.2⟩

end GrowsTo

theorem growsTo_put {place : Place} (missing : tree.entry? place = none) :
    GrowsTo [place] tree (tree.put place .directory) := by
  have below : place ≠ [] := by
    rintro rfl
    cases missing
  refine ⟨rfl, ?_⟩
  intro other
  rw [entry?_put tree below]
  by_cases same : other = place
  · subst same
    simp [missing]
  · simp [same]

/-! ## Making one directory -/

theorem makeDirectory_eq_ok {path : String} (made : tree.makeDirectory path = .ok after) :
    tree.locate path = .ok (place path) ∧ tree.entry? (place path) = none ∧
      after = tree.put (place path) .directory := by
  unfold makeDirectory at made
  cases located : tree.locate path with
  | error fault =>
      rw [located] at made
      cases made
  | ok target =>
      have same : target = place path := (locate_eq_ok_iff.mp located).2.2.2
      rw [located] at made
      subst same
      cases there : tree.entry? (place path) with
      | some entry =>
          simp [bind, Except.bind, there, throw, throwThe, MonadExceptOf.throw] at made
      | none =>
          simp [bind, Except.bind, there, pure, Except.pure] at made
          exact ⟨rfl, rfl, made.symm⟩

theorem perform_change (f : FileTree → Except Fault FileTree) (tree : FileTree) :
    perform (change f) tree =
      match f tree with
      | .ok after => (.ok (), after)
      | .error fault => (.error fault, tree) := by
  change perform (match f tree with
    | .ok after => set after
    | .error fault => throw fault) tree = _
  cases f tree with
  | ok after => rfl
  | error fault => rfl

theorem perform_makeDirectory (path : String) (tree : FileTree) :
    perform (fileSystem.makeDirectory path) tree =
      match tree.makeDirectory path with
      | .ok after => (.ok (), after)
      | .error fault => (.error fault, tree) :=
  perform_change (·.makeDirectory path) tree

theorem perform_ensureDirectory (path : String) (tree : FileTree) :
    perform (fileSystem.ensureDirectory path) tree =
      match tree.makeDirectory path with
      | .ok after => (.ok (), after)
      | .error fault =>
        if fault = .alreadyExists ∧ tree.isDirectory path = true then (.ok (), tree)
        else (.error fault, tree) := by
  unfold FileSystem.ensureDirectory
  rw [perform_tryCatch, perform_makeDirectory]
  cases tree.makeDirectory path with
  | ok after => rfl
  | error fault =>
      have asked : perform (liftM (fileSystem.isDirectory path)) tree =
          ((.ok (tree.isDirectory path) : Except Fault Bool), tree) := rfl
      dsimp only
      by_cases exists' : fault = .alreadyExists
      · rw [if_pos exists', perform_bind, asked]
        cases tree.isDirectory path with
        | false => simp [perform_throw]
        | true => simp [exists', perform_pure]
      · rw [if_neg exists', perform_throw]
        simp [exists']

theorem growsTo_ensureDirectory (path : String) (tree : FileTree) :
    GrowsTo [place path] tree (perform (fileSystem.ensureDirectory path) tree).2 := by
  rw [perform_ensureDirectory]
  cases making : tree.makeDirectory path with
  | ok after =>
      obtain ⟨_, missing, rfl⟩ := makeDirectory_eq_ok making
      exact growsTo_put missing
  | error fault =>
      dsimp only
      split
      · exact GrowsTo.refl _ tree
      · exact GrowsTo.refl _ tree

theorem isDirectory_of_ensureDirectory {path : String}
    (success : perform (fileSystem.ensureDirectory path) tree = (.ok (), after)) :
    after.isDirectory path = true := by
  rw [perform_ensureDirectory] at success
  cases making : tree.makeDirectory path with
  | ok made =>
      rw [making] at success
      cases success
      obtain ⟨located, missing, rfl⟩ := makeDirectory_eq_ok making
      obtain ⟨checked, above, short, _⟩ := locate_eq_ok_iff.mp located
      have below : place path ≠ [] := by
        intro top
        rw [top] at missing
        cases missing
      rw [isDirectory_iff]
      refine ⟨checked, short, ?_⟩
      simp only [passed, List.forall_mem_append, List.forall_mem_singleton, entry?_put tree below,
        if_true, and_true]
      intro other onTheWay
      split
      · rfl
      · exact above other onTheWay
  | error fault =>
      rw [making] at success
      dsimp only at success
      split at success
      · rename_i there
        cases success
        exact there.2
      · cases success

/-- A directory that is there is left as it is. -/
theorem perform_ensureDirectory_of_isDirectory {path : String}
    (there : tree.isDirectory path = true) :
    perform (fileSystem.ensureDirectory path) tree = (.ok (), tree) := by
  obtain ⟨target, located, directory⟩ := isDirectory_iff_locate.mp there
  have refused : tree.makeDirectory path = .error .alreadyExists := by
    rw [makeDirectory, located]
    simp [bind, Except.bind, directory, throw, throwThe, MonadExceptOf.throw]
  rw [perform_ensureDirectory, refused]
  simp [there]

/-! ## Making a directory and those above it -/

theorem perform_ensureNested_cons (path : String) (above : List String) (tree : FileTree) :
    perform (fileSystem.ensureNested (path :: above)) tree =
      match perform (fileSystem.ensureDirectory path) tree with
      | (.ok (), after) => (.ok (), after)
      | (.error fault, after) =>
        if fault = .notFound then
          perform (do fileSystem.ensureNested above; fileSystem.ensureDirectory path) after
        else (.error fault, after) := by
  rw [FileSystem.ensureNested, perform_tryCatch]
  rcases perform (fileSystem.ensureDirectory path) tree with ⟨result, after⟩
  cases result with
  | ok _ => rfl
  | error fault =>
      dsimp only
      split
      · rfl
      · exact perform_throw fault after

theorem growsTo_ensureNested (paths : List String) (tree : FileTree) :
    GrowsTo (paths.map place) tree (perform (fileSystem.ensureNested paths) tree).2 := by
  induction paths generalizing tree with
  | nil => exact GrowsTo.refl _ tree
  | cons path above ih =>
      have one (tree : FileTree) : GrowsTo ((path :: above).map place) tree
          (perform (fileSystem.ensureDirectory path) tree).2 := by
        refine (growsTo_ensureDirectory path tree).mono ?_
        intro place same
        rw [List.mem_singleton.mp same]
        exact List.mem_cons_self
      have first := one tree
      rw [perform_ensureNested_cons]
      rcases tried : perform (fileSystem.ensureDirectory path) tree with ⟨result, middle⟩
      rw [tried] at first
      cases result with
      | ok _ => exact first
      | error fault =>
          dsimp only
          split
          · have rest : GrowsTo ((path :: above).map place) middle
                (perform (fileSystem.ensureNested above) middle).2 :=
              (ih middle).mono fun _ member => List.mem_cons_of_mem _ member
            rw [perform_bind]
            rcases nested : perform (fileSystem.ensureNested above) middle with ⟨result, later⟩
            rw [nested] at rest
            cases result with
            | ok _ => exact (first.trans rest).trans (one later)
            | error fault => exact first.trans rest
          · exact first

theorem isDirectory_of_ensureNested {path : String} {above : List String}
    (success : perform (fileSystem.ensureNested (path :: above)) tree = (.ok (), after)) :
    after.isDirectory path = true := by
  rw [perform_ensureNested_cons] at success
  rcases first : perform (fileSystem.ensureDirectory path) tree with ⟨result, middle⟩
  rw [first] at success
  cases result with
  | ok _ =>
      cases success
      exact isDirectory_of_ensureDirectory first
  | error fault =>
      dsimp only at success
      split at success
      · rw [perform_bind] at success
        rcases nested : perform (fileSystem.ensureNested above) middle with ⟨result, later⟩
        rw [nested] at success
        cases result with
        | ok _ => exact isDirectory_of_ensureDirectory success
        | error fault => cases success
      · cases success

theorem growsTo_ensureDirectories (path : String) (tree : FileTree) :
    GrowsTo (passed path) tree (perform (fileSystem.ensureDirectories path) tree).2 := by
  refine (growsTo_ensureNested (ancestors path) tree).mono ?_
  intro place member
  obtain ⟨other, ancestor, rfl⟩ := List.mem_map.mp member
  exact place_mem_passed_of_mem_ancestors ancestor

theorem ancestors_eq_nil_or_cons (path : String) :
    ancestors path = [] ∨ ∃ above, ancestors path = path :: above := by
  unfold ancestors
  dsimp only
  split
  · exact Or.inl rfl
  · exact Or.inr ⟨_, rfl⟩

theorem hasDirectory_of_isDirectory {path : String} (there : tree.isDirectory path = true) :
    tree.HasDirectory path := by
  obtain ⟨checked, short, directories⟩ := isDirectory_iff.mp there
  exact ⟨(checkPath_eq_ok_iff.mp checked).1, short, directories⟩

theorem hasDirectory_of_dots {path : String} (dots : ∀ name ∈ parts path, name = ".") :
    tree.HasDirectory path := by
  refine ⟨?_, ?_, ?_⟩
  · intro nul
    rcases eq_slash_or_mem_parts nul with slash | ⟨name, member, inside⟩
    · cases slash
    · rw [dots name member] at inside
      revert inside
      decide
  · intro name member
    rw [dots name member]
    decide
  · intro place member
    rw [passed_eq_top dots place member]
    rfl

theorem hasDirectory_of_ensureDirectories {path : String}
    (success : perform (fileSystem.ensureDirectories path) tree = (.ok (), after)) :
    after.HasDirectory path := by
  rw [FileSystem.ensureDirectories] at success
  rcases ancestors_eq_nil_or_cons path with alone | ⟨above, leading⟩
  · exact hasDirectory_of_dots (eq_dot_of_ancestors_eq_nil alone)
  · rw [leading] at success
    exact hasDirectory_of_isDirectory (isDirectory_of_ensureNested success)

theorem perform_ensureDirectories_of_isDirectory {path : String}
    (there : tree.isDirectory path = true) :
    perform (fileSystem.ensureDirectories path) tree = (.ok (), tree) := by
  rw [FileSystem.ensureDirectories]
  rcases ancestors_eq_nil_or_cons path with alone | ⟨above, leading⟩
  · rw [alone]
    rfl
  · rw [leading, perform_ensureNested_cons, perform_ensureDirectory_of_isDirectory there]

/-- Once it is made, a directory need not be made again, in whatever else the tree has changed. -/
theorem perform_ensureDirectories_again {path : String} {later : FileTree}
    (success : perform (fileSystem.ensureDirectories path) tree = (.ok (), after))
    (sameLimit : later.pathLimit = after.pathLimit) (kept : later.HasDirectory path) :
    perform (fileSystem.ensureDirectories path) later = (.ok (), later) := by
  rcases ancestors_eq_nil_or_cons path with alone | ⟨above, leading⟩
  · rw [FileSystem.ensureDirectories, alone]
    rfl
  · rw [FileSystem.ensureDirectories, leading] at success
    have checked := (isDirectory_iff.mp (isDirectory_of_ensureNested success)).1
    rw [checkPath_eq_ok_iff, ← sameLimit, ← checkPath_eq_ok_iff] at checked
    exact perform_ensureDirectories_of_isDirectory
      (isDirectory_iff.mpr ⟨checked, kept.short, kept.directories⟩)

end FileTree

end TransitionNetwork
