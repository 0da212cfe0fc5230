import TransitionNetwork.Proofs.ClearPaths
import TransitionNetwork.Proofs.DocumentNames
import TransitionNetwork.Proofs.MemoryContents
import TransitionNetwork.Sink.Directory

/-!
# Documents in a directory are those in memory

Both sinks put the contents of documents into a map, one by its names and the other by the places of
these names below the root. Different names have different places, so whatever is written stays.
-/

set_option autoImplicit false

namespace TransitionNetwork

/-! ## One file below the root -/

namespace Path

theorem mem_toList_join {root name : String} (component : IsComponent name) {c : Char}
    (member : c ∈ (join root name).toList) : c ∈ root.toList ∨ c = '/' ∨ c ∈ name.toList := by
  rcases join_eq root name component with ⟨_, joined⟩ | ⟨front, joined, ⟨rfl, _⟩ | rfl⟩
  · rw [joined] at member
    exact Or.inr (Or.inr member)
  · rw [joined] at member
    simpa using member
  · rw [joined] at member
    simp only [String.toList_ofList, List.mem_append, List.mem_cons] at member ⊢
    grind

theorem endsInSlash_join (root : String) {name : String} (component : IsComponent name) :
    endsInSlash (join root name) = false := by
  have filled : name.toList ≠ [] := fun blank =>
    component.nonempty (String.toList_eq_nil_iff.mp blank)
  have last : name.toList.getLast? ≠ some '/' := by
    intro slash
    exact component.slash_notMem (List.mem_of_getLast? slash)
  unfold endsInSlash
  rw [beq_eq_false_iff_ne]
  rcases join_eq root name component with ⟨_, joined⟩ | ⟨front, joined, _⟩
  · rw [joined]
    exact last
  · obtain ⟨c, rest, chars⟩ := List.exists_cons_of_ne_nil filled
    rw [chars] at last
    rw [joined, String.toList_ofList, chars]
    simpa using last

end Path

namespace FileTree

open TransitionNetwork.Path

variable {tree : FileTree} {root name : String}

/-- The file system can have a file of this name below the root, as far as names go. -/
structure Takes (tree : FileTree) (root name : String) : Prop where
  nul_notMem : '\x00' ∉ name.toList
  short : name.utf8ByteSize ≤ longestName
  withinLimit : ∀ limit ∈ tree.pathLimit, (join root name).utf8ByteSize ≤ limit

theorem Takes.of_pathLimit_eq {other : FileTree} (taken : tree.Takes root name)
    (same : other.pathLimit = tree.pathLimit) : other.Takes root name := by
  obtain ⟨nul, short, withinLimit⟩ := taken
  exact ⟨nul, short, by rwa [same]⟩

theorem locate_join (held : tree.HasDirectory root) (component : IsComponent name)
    (taken : tree.Takes root name) :
    tree.locate (join root name) = .ok (place root ++ [name]) := by
  rw [locate_eq_ok_iff, checkPath_eq_ok_iff, place_join root component, parts_join root component,
    route_append]
  refine ⟨⟨?_, ?_, taken.withinLimit⟩, held.directories, ?_, rfl⟩
  · intro nul
    rcases mem_toList_join component nul with inRoot | slash | inName
    · exact held.nul_notMem inRoot
    · cases slash
    · exact taken.nul_notMem inName
  · intro blank
    have joined := parts_join root component
    rw [blank] at joined
    exact absurd joined.symm (by simp [parts, splitAtSlashes])
  · rw [List.forall_mem_append, List.forall_mem_singleton]
    exact ⟨held.short, taken.short⟩

theorem isDirectory_join (held : tree.HasDirectory root) (component : IsComponent name)
    (taken : tree.Takes root name) :
    tree.isDirectory (join root name) = true ↔
      tree.entry? (place root ++ [name]) = some .directory := by
  rw [isDirectory_iff_locate, locate_join held component taken]
  simp

theorem writeFile_join (held : tree.HasDirectory root) (component : IsComponent name)
    (taken : tree.Takes root name) (free : tree.entry? (place root ++ [name]) ≠ some .directory)
    (bytes : ByteArray) :
    tree.writeFile (join root name) bytes =
      .ok (tree.put (place root ++ [name]) (.file bytes)) := by
  rw [writeFile, endsInSlash_join root component, locate_join held component taken]
  simp only [bind, Except.bind, Bool.false_eq_true, if_false]
  rfl

theorem readFile_join (held : tree.HasDirectory root) (component : IsComponent name)
    (taken : tree.Takes root name) {bytes : ByteArray}
    (there : tree.entry? (place root ++ [name]) = some (.file bytes)) :
    tree.readFile (join root name) = .ok bytes := by
  rw [readFile, locate_join held component taken]
  simp [bind, Except.bind, there, endsInSlash_join root component, pure, Except.pure]

/-! ## All files below the root -/

/-- The file of the document below the place. -/
def fileBelow (above : Place) (document : Document) : Place × Entry :=
  (above ++ [document.name], .file document.content.toUTF8)

/-- Puts the files of all documents below a place, in the order of the list. -/
def putFiles (tree : FileTree) (above : Place) (documents : List Document) : FileTree :=
  { tree with entries := tree.entries.insertAll (documents.map (fileBelow above)) }

variable {above : Place} {documents : List Document}

theorem entry?_putFiles_of_ne {place : Place}
    (other : ∀ document ∈ documents, place ≠ above ++ [document.name]) :
    FileTree.entry? (tree.putFiles above documents) place = tree.entry? place := by
  by_cases top : place = []
  · rw [top]
    rfl
  · rw [entry?_eq_get? _ top, entry?_eq_get? _ top]
    apply OrderedMap.get?_insertAll_of_notMem
    intro member
    simp only [List.map_map, List.mem_map] at member
    obtain ⟨document, member, same⟩ := member
    exact other document member same.symm

theorem entry?_putFiles_of_mem (distinct : (documents.map (·.name)).Nodup) {document : Document}
    (member : document ∈ documents) :
    FileTree.entry? (tree.putFiles above documents) (above ++ [document.name]) =
      some (.file document.content.toUTF8) := by
  have apart : ((documents.map (fileBelow above)).map Prod.fst).Nodup := by
    have places : (documents.map (fileBelow above)).map Prod.fst =
        (documents.map (·.name)).map fun name => above ++ [name] := by
      rw [List.map_map, List.map_map]
      rfl
    rw [places]
    refine distinct.map ?_
    intro first second same
    simpa using same
  rw [entry?_eq_get? _ (by simp)]
  exact tree.entries.get?_insertAll_of_mem apart (List.mem_map_of_mem member)

/-- Files in places that are no directories leave every directory as it is. -/
theorem HasDirectory.putFiles (held : tree.HasDirectory root)
    (free : ∀ document ∈ documents, tree.entry? (above ++ [document.name]) ≠ some .directory) :
    (tree.putFiles above documents).HasDirectory root := by
  refine ⟨held.nul_notMem, held.short, ?_⟩
  intro passing onTheWay
  have directory := held.directories passing onTheWay
  rw [entry?_putFiles_of_ne, directory]
  intro document member same
  rw [same] at directory
  exact free document member directory

theorem putFiles_eq_self (present : ∀ document ∈ documents,
    tree.entry? (above ++ [document.name]) = some (.file document.content.toUTF8)) :
    tree.putFiles above documents = tree := by
  have same : tree.entries.insertAll (documents.map (fileBelow above)) = tree.entries := by
    apply OrderedMap.insertAll_of_get?
    intro entry member
    obtain ⟨document, inside, rfl⟩ := List.mem_map.mp member
    have there := present document inside
    rwa [entry?_eq_get? _ (by simp)] at there
  rw [putFiles, same]

end FileTree

/-! ## Both sinks -/

namespace Sink

open FileTree TransitionNetwork.Path

variable {tree made : FileTree} {root : String} {documents : List Document}

/-- The document can be written below a root that is there: no directory stands in its place, and
the path to it is one that the file system takes. -/
structure HasRoomFor (tree : FileTree) (root : String) (document : Document) : Prop where
  component : IsComponent document.name
  taken : tree.Takes root document.name
  free : tree.entry? (place root ++ [document.name]) ≠ some .directory

theorem perform_directory (document : Document)
    (rootMade : perform (fileSystem.ensureDirectories root) tree = (.ok (), made))
    (held : made.HasDirectory root) (room : HasRoomFor made root document) :
    perform (directory fileSystem root document) tree =
      (.ok (), made.put (place root ++ [document.name]) (.file document.content.toUTF8)) := by
  unfold directory
  rw [perform_bind, rootMade]
  have written := writeFile_join held room.component room.taken room.free document.content.toUTF8
  change perform (change _) made = _
  rw [perform_change, written]

/-- A file in another place takes no room away. -/
theorem HasRoomFor.put_file {document : Document} (room : HasRoomFor tree root document)
    {target : Place} (below : target ≠ []) (bytes : ByteArray) :
    HasRoomFor (tree.put target (.file bytes)) root document := by
  refine ⟨room.component, room.taken.of_pathLimit_eq rfl, ?_⟩
  rw [entry?_put tree below]
  split
  · simp
  · exact room.free

theorem writesInTurn_directory (held : tree.HasDirectory root)
    (again : ∀ later : FileTree, later.pathLimit = tree.pathLimit → later.HasDirectory root →
      perform (fileSystem.ensureDirectories root) later = (.ok (), later))
    (room : ∀ document ∈ documents, HasRoomFor tree root document) :
    (directory fileSystem root).WritesInTurn tree documents
      (Report.complete documents).attempts
      (tree.putFiles (place root) documents) := by
  -- every write keeps the root and the room of the documents that are still to come
  induction documents generalizing tree with
  | nil => exact .nil tree
  | cons document documents ih =>
      obtain ⟨first, others⟩ := List.forall_mem_cons.mp room
      refine .written (perform_directory document (again tree rfl held) held first) ?_
      have kept : (tree.putFiles (place root) [document]).HasDirectory root :=
        held.putFiles (List.forall_mem_singleton.mpr first.free)
      apply ih kept again
      intro other member
      exact (others other member).put_file (by simp [fileBelow]) _

/-- The run meets its own files and writes them once more. -/
theorem writesInTurn_directory_again (held : tree.HasDirectory root)
    (again : ∀ later : FileTree, later.pathLimit = tree.pathLimit → later.HasDirectory root →
      perform (fileSystem.ensureDirectories root) later = (.ok (), later))
    (distinct : (documents.map (·.name)).Nodup)
    (room : ∀ document ∈ documents, HasRoomFor tree root document) :
    (directory fileSystem root).WritesInTurn (tree.putFiles (place root) documents) documents
      (Report.complete documents).attempts
      (tree.putFiles (place root) documents) := by
  have files (document : Document) (member : document ∈ documents) :
      FileTree.entry? (tree.putFiles (place root) documents) (place root ++ [document.name]) =
        some (.file document.content.toUTF8) := entry?_putFiles_of_mem distinct member
  have kept : (tree.putFiles (place root) documents).HasDirectory root :=
    held.putFiles fun document member => (room document member).free
  have roomAgain : ∀ document ∈ documents,
      HasRoomFor (tree.putFiles (place root) documents) root document := by
    intro document member
    refine ⟨(room document member).component, (room document member).taken.of_pathLimit_eq rfl, ?_⟩
    rw [files document member]
    simp
  have turns := writesInTurn_directory kept again roomAgain
  rwa [putFiles_eq_self files] at turns

/-- The first document finds the root made or has it made, so it makes no difference to have it made
before. -/
theorem WritesInTurn.of_made {attempts : List (Attempt Fault)} {after : FileTree}
    (rootMade : perform (fileSystem.ensureDirectories root) tree = (.ok (), made))
    (filled : documents ≠ [])
    (turns : (directory fileSystem root).WritesInTurn made documents attempts after) :
    (directory fileSystem root).WritesInTurn tree documents attempts after := by
  have again : perform (fileSystem.ensureDirectories root) made = (.ok (), made) :=
    perform_ensureDirectories_again rootMade rfl (hasDirectory_of_ensureDirectories rootMade)
  have same (document : Document) : perform (directory fileSystem root document) tree =
      perform (directory fileSystem root document) made := by
    rw [directory, perform_bind, perform_bind, rootMade, again]
  cases turns with
  | nil state => exact absurd rfl filled
  | written success rest => exact .written ((same _).trans success) rest
  | refused failure rest => exact .refused ((same _).trans failure) rest

end Sink

namespace Automaton

open FileTree TransitionNetwork.Path

variable (automaton : Automaton)

theorem isComponent_of_mem_documents {options : Options} {document : Document}
    (member : document ∈ automaton.documents options) : IsComponent document.name :=
  automaton.isComponent_of_mem_documentNames
    ((automaton.names_documents_sublist options).mem (List.mem_map_of_mem member))

theorem names_documents_nodup (options : Options) :
    ((automaton.documents options).map (·.name)).Nodup :=
  automaton.documentNames_nodup.sublist (automaton.names_documents_sublist options)

/-- The contents that a run into memory keeps. -/
def stored (options : Options) : Store :=
  ((Sink.memory (ε := Fault)).writeAll (automaton.documents options)).run {} |>.2

theorem stored_eq (options : Options) :
    automaton.stored options =
      OrderedMap.insertAll {} ((automaton.documents options).map fun document =>
        (document.name, document.content)) := by
  have run := Sink.run_writeAll_eq_iff.mpr
    (Sink.writesInTurn_memory (ε := Fault) {} (automaton.documents options))
  rw [stored, run]

theorem get?_stored {options : Options} {document : Document}
    (member : document ∈ automaton.documents options) :
    (automaton.stored options).get? document.name = some document.content := by
  rw [stored_eq]
  apply OrderedMap.get?_insertAll_of_mem
  · rw [List.map_map]
    exact automaton.names_documents_nodup options
  · exact List.mem_map.mpr ⟨document, member, rfl⟩

/-- What a run into a directory leaves behind: every document in the file of its name, and nothing
else changed but missing places on the way to the root, which have become directories. -/
structure DirectoryRun (options : Options) (root : String) (tree after : FileTree)
    (report : Report Fault) : Prop where
  written_eq : report.written = (automaton.documents options).map (·.name)
  failures_eq : report.failures = []
  readFile_eq : ∀ document ∈ automaton.documents options,
    ∃ content, (automaton.stored options).get? document.name = some content ∧
      after.readFile (join root document.name) = .ok content.toUTF8
  entry?_eq : ∀ other, (∀ document ∈ automaton.documents options,
      other ≠ place (join root document.name)) →
    after.entry? other = tree.entry? other ∨
      other ∈ passed root ∧ tree.entry? other = none ∧ after.entry? other = some .directory
  again : ((Sink.directory fileSystem root).writeAll (automaton.documents options)).run after =
    (report, after)

/-- What has to hold of the tree once the root is made can be told from the tree before it: the path
to the root is clear, and where a document is to be there is no directory and none is made. -/
theorem exists_made_for_documents (options : Options) {root name : String} {tree : FileTree}
    (last : (parts root).getLast? = some name) (own : name ≠ ".") (clear : tree.IsClear root)
    (apart : ∀ document ∈ automaton.documents options,
      place (join root document.name) ∉ passed root ∧
        tree.entry? (place (join root document.name)) ≠ some .directory) :
    ∃ made, perform (fileSystem.ensureDirectories root) tree = (.ok (), made) ∧
      ∀ document ∈ automaton.documents options,
        made.entry? (place (join root document.name)) ≠ some .directory ∧
          made.isDirectory (join root document.name) = false := by
  obtain ⟨made, success⟩ := (exists_made_iff_isClear last own).mpr clear
  have grows := growsTo_ensureDirectories root tree
  rw [success] at grows
  refine ⟨made, success, fun document member => ?_⟩
  obtain ⟨aside, vacant⟩ := apart document member
  have still : made.entry? (place (join root document.name)) ≠ some .directory := by
    rcases grows.grown (place (join root document.name)) with kept | ⟨passing, _, _⟩
    · rwa [kept]
    · exact absurd passing aside
  refine ⟨still, Bool.eq_false_iff.mpr fun there => ?_⟩
  have arriving := (isDirectory_iff.mp there).2.2
  exact still (arriving _ (List.mem_append_right _ List.mem_cons_self))

/-- For a root without `..` it is enough that no document is called like a directory in the root as
it is before. -/
theorem exists_made_for_documents_of_down (options : Options) {root name : String}
    {tree : FileTree} (last : (parts root).getLast? = some name) (own : name ≠ ".")
    (down : ".." ∉ parts root) (clear : tree.IsClear root)
    (vacant : ∀ document ∈ automaton.documents options,
      tree.entry? (place (join root document.name)) ≠ some .directory) :
    ∃ made, perform (fileSystem.ensureDirectories root) tree = (.ok (), made) ∧
      ∀ document ∈ automaton.documents options,
        made.entry? (place (join root document.name)) ≠ some .directory ∧
          made.isDirectory (join root document.name) = false :=
  automaton.exists_made_for_documents options last own clear fun document member =>
    ⟨place_join_notMem_passed down (automaton.isComponent_of_mem_documents member),
      vacant document member⟩

/-- A run into a directory and one into memory keep the same contents, if the root is a directory or
can be made one, if no document is called like a directory in the root, and if its name and the path
to it can be used. -/
theorem directory_run_agrees_with_memory (options : Options) (root : String) {tree made : FileTree}
    (rootMade : perform (fileSystem.ensureDirectories root) tree = (.ok (), made))
    (free : ∀ document ∈ automaton.documents options,
      made.isDirectory (join root document.name) = false)
    (taken : ∀ document ∈ automaton.documents options, tree.Takes root document.name) :
    ∃ report after,
      ((Sink.directory fileSystem root).writeAll (automaton.documents options)).run tree =
        (report, after) ∧
      automaton.DirectoryRun options root tree after report := by
  have held := hasDirectory_of_ensureDirectories rootMade
  have grows := growsTo_ensureDirectories root tree
  rw [rootMade] at grows
  have again (later : FileTree) (sameLimit : later.pathLimit = made.pathLimit)
      (kept : later.HasDirectory root) := perform_ensureDirectories_again rootMade sameLimit kept
  have distinct := automaton.names_documents_nodup options
  have component (document : Document) (member : document ∈ automaton.documents options) :=
    automaton.isComponent_of_mem_documents member
  have room : ∀ document ∈ automaton.documents options, Sink.HasRoomFor made root document := by
    intro document member
    have taken : made.Takes root document.name :=
      (taken document member).of_pathLimit_eq grows.pathLimit_eq
    refine ⟨component document member, taken, ?_⟩
    rw [ne_eq, ← isDirectory_join held (component document member) taken, free document member]
    decide
  -- without any document the root is not made, so the run leaves the tree and not `made`
  by_cases none : automaton.documents options = []
  · refine ⟨_, tree, Sink.run_writeAll_eq_iff.mpr ?_, Report.written_complete _,
      Report.failures_complete _, ?_, ?_, ?_⟩
    · rw [none]
      exact .nil tree
    · simp [none]
    · exact fun other _ => Or.inl rfl
    · apply Sink.run_writeAll_eq_iff.mpr
      rw [none]
      exact .nil tree
  · refine ⟨_, made.putFiles (place root) (automaton.documents options),
      Sink.run_writeAll_eq_iff.mpr ?_, Report.written_complete _,
      Report.failures_complete _, ?_, ?_, ?_⟩
    · exact (Sink.writesInTurn_directory held again room).of_made rootMade none
    · intro document member
      have kept := held.putFiles fun document member => (room document member).free
      have taken : (made.putFiles (place root) (automaton.documents options)).Takes root
          document.name := (room document member).taken.of_pathLimit_eq rfl
      exact ⟨document.content, automaton.get?_stored member, readFile_join kept
        (component document member) taken (entry?_putFiles_of_mem distinct member)⟩
    · intro other apart
      rw [entry?_putFiles_of_ne]
      · exact grows.grown other
      · intro document member
        rw [← place_join root (component document member)]
        exact apart document member
    · exact Sink.run_writeAll_eq_iff.mpr
        (Sink.writesInTurn_directory_again held again distinct room)

/-- One rule with one state. -/
def loneRule : Automaton where
  ruleNames := #["a"]
  vocabulary := {}
  size := 1
  states := #v[{ id := 7, rule := some 0, kind := .basic, transitions := [] }]
  usable_of_mem_ruleNames := by decide
  ruleNames_nodup := by decide
  ids_nodup := by decide

/-- In place of one document there is a longer file. -/
def usedTree : FileTree :=
  putNested {} ["out", "atn.dot"] (.file ⟨Array.replicate 1000 120⟩)

theorem directory_run_over_usedTree :
    perform (fileSystem.ensureDirectories "out") usedTree = (.ok (), usedTree) ∧
    (∀ document ∈ loneRule.documents {}, usedTree.isDirectory (join "out" document.name) = false) ∧
    (∀ document ∈ loneRule.documents {}, usedTree.Takes "out" document.name) ∧
    ∃ report after,
      ((Sink.directory fileSystem "out").writeAll (loneRule.documents {})).run usedTree =
        (report, after) ∧
      loneRule.DirectoryRun {} "out" usedTree after report := by
  have rootMade : perform (fileSystem.ensureDirectories "out") usedTree = (.ok (), usedTree) :=
    perform_ensureDirectories_of_isDirectory (by decide +kernel)
  have free : ∀ document ∈ loneRule.documents {},
      usedTree.isDirectory (join "out" document.name) = false := by
    decide +kernel
  have taken : ∀ document ∈ loneRule.documents {}, usedTree.Takes "out" document.name := by
    intro document member
    refine ⟨?_, ?_, ?_⟩ <;> revert document <;> decide +kernel
  exact ⟨rootMade, free, taken,
    loneRule.directory_run_agrees_with_memory {} "out" rootMade free taken⟩

theorem isUsableRuleName_of_mem_empty (name : String) (member : name ∈ (#[] : Array String)) :
    IsUsableRuleName name := by
  cases List.not_mem_nil (Array.mem_def.mp member)

/-- No rules and no states. -/
def ruleless : Automaton where
  ruleNames := #[]
  vocabulary := {}
  size := 0
  states := #v[]
  usable_of_mem_ruleNames := isUsableRuleName_of_mem_empty
  ruleNames_nodup := List.nodup_nil
  ids_nodup := by decide

/-- It matters that the root is made first. On the way to this root a directory is made that is
called like the document, which was no directory before. -/
theorem directory_run_meets_directory_of_root :
    (∃ made, perform (fileSystem.ensureDirectories "out/atn.dot/..") {} = (.ok (), made)) ∧
    (∀ document ∈ ruleless.documents {},
      FileTree.isDirectory {} (join "out/atn.dot/.." document.name) = false) ∧
    (∀ document ∈ ruleless.documents {}, Takes {} "out/atn.dot/.." document.name) ∧
    (((Sink.directory fileSystem "out/atn.dot/..").writeAll (ruleless.documents {})).run {}).1 =
      ⟨[{ name := "atn.dot", refusal := some .isDirectory }]⟩ := by
  have rootMade : perform (fileSystem.ensureDirectories "out/atn.dot/..") {} =
      (.ok (), putNested {} ["out", "atn.dot"] .directory) := by
    decide +kernel
  refine ⟨⟨_, rootMade⟩, by decide +kernel, ?_, by decide +kernel⟩
  intro document member
  refine ⟨?_, ?_, ?_⟩ <;> revert document <;> decide +kernel

end Automaton

end TransitionNetwork
