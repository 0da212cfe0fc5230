import TransitionNetwork.Proofs.DirectoryContents
import TransitionNetwork.Proofs.ListedNames

/-!
# Documents that no file can be named after

A rule may have a name with a NUL, or one that is too long for the name of a file. The snapshot is
accepted all the same, and a run that renders its documents writes all those that files can be named
after and none of the others.
-/

set_option autoImplicit false

namespace TransitionNetwork

namespace FileTree

open TransitionNetwork.Path

variable {tree : FileTree} {root name : String} {fault : Fault}

/-! ## Names of files -/

/-- Why no file can have this name, in whatever directory. -/
def fileNameFault? (name : String) : Option Fault :=
  if '\x00' ∈ name.toList then some .containsNul
  else if longestName < name.utf8ByteSize then some .nameTooLong
  else none

theorem fileNameFault?_eq_none_iff :
    fileNameFault? name = none ↔ '\x00' ∉ name.toList ∧ name.utf8ByteSize ≤ longestName := by
  unfold fileNameFault?
  split
  · rename_i nul
    exact iff_of_false nofun fun usable => usable.1 nul
  rename_i whole
  rw [and_iff_right whole]
  split
  · rename_i long
    exact iff_of_false nofun (Nat.not_le_of_lt long)
  · rename_i short
    exact iff_of_true rfl (Nat.le_of_not_lt short)

theorem toList_suffix_toList_join (component : IsComponent name) :
    name.toList <:+ (join root name).toList := by
  rcases join_eq root name component with ⟨_, joined⟩ | ⟨front, joined, _⟩
  · simp [joined]
  · rw [joined, String.toList_ofList]
    exact (List.suffix_cons _ _).trans (List.suffix_append _ _)

theorem utf8ByteSize_join_le (root name : String) :
    (join root name).utf8ByteSize ≤ root.utf8ByteSize + 1 + name.utf8ByteSize := by
  have slash : "/".utf8ByteSize = 1 := by decide
  unfold join
  split
  · omega
  split
  · rw [String.utf8ByteSize_append]
    omega
  · rw [String.utf8ByteSize_append, String.utf8ByteSize_append, slash]

/-- The names on the way to the root can be followed, and then the last one cannot. -/
theorem follow_join_of_long (held : tree.HasDirectory root) (component : IsComponent name)
    (long : longestName < name.utf8ByteSize) :
    tree.follow [] (parts (join root name)) = .error .nameTooLong := by
  obtain ⟨onTheWay, there⟩ := List.forall_mem_append.mp held.directories
  have above : tree.follow [] (parts root) = .ok (place root) :=
    follow_eq_ok_iff.mpr ⟨onTheWay, held.short, rfl⟩
  rw [parts_join root component, follow_append, above]
  change tree.follow (place root) [name] = _
  rw [follow_cons_of_directory (there _ (List.mem_singleton_self _)), if_pos long]

theorem locate_join_of_fault (held : tree.HasDirectory root) (component : IsComponent name)
    (found : fileNameFault? name = some fault) :
    tree.locate (join root name) = .error fault := by
  have ending : name.toList <:+ (join root name).toList := toList_suffix_toList_join component
  unfold fileNameFault? at found
  rw [locate, checkPath]
  split at found
  · rename_i nul
    cases found
    rw [if_pos (ending.mem nul)]
    rfl
  · rename_i nul
    split at found
    · rename_i long
      cases found
      have whole : '\x00' ∉ (join root name).toList := by
        intro member
        rcases mem_toList_join component member with inRoot | slash | inName
        · exact held.nul_notMem inRoot
        · cases slash
        · exact nul inName
      have filled : join root name ≠ "" := by
        intro blank
        rw [blank] at ending
        exact component.nonempty (String.toList_eq_nil_iff.mp (List.suffix_nil.mp ending))
      rw [if_neg whole, if_neg filled, follow_join_of_long held component long]
      split
      · rfl
      · rfl
    · cases found

theorem writeFile_join_of_fault (held : tree.HasDirectory root) (component : IsComponent name)
    (found : fileNameFault? name = some fault) (bytes : ByteArray) :
    tree.writeFile (join root name) bytes = .error fault := by
  rw [writeFile, endsInSlash_join root component, locate_join_of_fault held component found]
  rfl

end FileTree

/-! ## A directory that no document is in the way of -/

namespace Sink

open FileTree TransitionNetwork.Path

variable {tree made : FileTree} {root : String} {documents : List Document}

/-- What becomes of a document in a directory that takes every file. -/
def attemptByName (document : Document) : Attempt Fault where
  name := document.name
  refusal := fileNameFault? document.name

/-- The documents that files can be named after. -/
def fileable (documents : List Document) : List Document :=
  documents.filter fun document => fileNameFault? document.name = none

theorem mem_fileable {document : Document} :
    document ∈ fileable documents ↔
      document ∈ documents ∧ fileNameFault? document.name = none := by
  simp [fileable]

theorem perform_directory_of_fault {document : Document} {fault : Fault}
    (rootMade : perform (fileSystem.ensureDirectories root) tree = (.ok (), made))
    (held : made.HasDirectory root) (component : IsComponent document.name)
    (found : fileNameFault? document.name = some fault) :
    perform (directory fileSystem root document) tree = (.error fault, made) := by
  unfold directory
  rw [perform_bind, rootMade]
  change perform (change _) made = _
  rw [perform_change, writeFile_join_of_fault held component found]

theorem writesInTurn_directory_by_name (held : tree.HasDirectory root)
    (again : ∀ later : FileTree, later.pathLimit = tree.pathLimit → later.HasDirectory root →
      perform (fileSystem.ensureDirectories root) later = (.ok (), later))
    (component : ∀ document ∈ documents, IsComponent document.name)
    (room : ∀ document ∈ fileable documents, HasRoomFor tree root document) :
    (directory fileSystem root).WritesInTurn tree documents (documents.map attemptByName)
      (tree.putFiles (place root) (fileable documents)) := by
  -- every write keeps the root and the room of what is still to come, and a refusal changes nothing
  induction documents generalizing tree with
  | nil => exact .nil tree
  | cons document documents ih =>
      obtain ⟨first, others⟩ := List.forall_mem_cons.mp component
      have rootThere := again tree rfl held
      rw [List.map_cons, attemptByName]
      cases found : fileNameFault? document.name with
      | none =>
          have kept : fileable (document :: documents) = document :: fileable documents :=
            List.filter_cons_of_pos (by simpa using found)
          rw [kept] at room ⊢
          obtain ⟨roomFirst, roomOthers⟩ := List.forall_mem_cons.mp room
          refine .written (perform_directory document rootThere held roomFirst) ?_
          have stays : (tree.putFiles (place root) [document]).HasDirectory root :=
            held.putFiles (List.forall_mem_singleton.mpr roomFirst.free)
          apply ih stays again others
          intro other member
          exact (roomOthers other member).put_file (by simp [fileBelow]) _
      | some fault =>
          have dropped : fileable (document :: documents) = fileable documents :=
            List.filter_cons_of_neg (by simp [found])
          rw [dropped] at room ⊢
          exact .refused (perform_directory_of_fault rootThere held first found)
            (ih held again others room)

end Sink

/-! ## Which documents those are -/

namespace Document

open FileTree (fileNameFault? fileNameFault?_eq_none_iff longestName)

/-- A rule of this name can have a focused document in a file: what stands around the name of the
rule takes 17 of the 255 bytes. -/
structure IsFileable (ruleName : String) : Prop where
  nul_notMem : '\x00' ∉ ruleName.toList
  short : ruleName.utf8ByteSize ≤ 238

theorem utf8ByteSize_focusedName (ruleName : String) :
    (focusedName ruleName).utf8ByteSize = ruleName.utf8ByteSize + 17 := by
  have front : "clusters_for_".utf8ByteSize = 13 := by decide
  have ending : ".dot".utf8ByteSize = 4 := by decide
  rw [focusedName, String.utf8ByteSize_append, String.utf8ByteSize_append, front, ending]
  omega

theorem fileNameFault?_focusedName_eq_none_iff {ruleName : String} :
    fileNameFault? (focusedName ruleName) = none ↔ IsFileable ruleName := by
  have nul : '\x00' ∉ (focusedName ruleName).toList ↔ '\x00' ∉ ruleName.toList := by
    simp [focusedName]
  rw [fileNameFault?_eq_none_iff, nul, utf8ByteSize_focusedName, longestName]
  constructor
  · rintro ⟨whole, short⟩
    exact ⟨whole, by omega⟩
  · rintro ⟨whole, short⟩
    exact ⟨whole, by omega⟩

theorem fileNameFault?_fullName : fileNameFault? fullName = none := by
  decide

theorem utf8ByteSize_ofList_of_single_bytes {chars : List Char}
    (single : ∀ c ∈ chars, c.utf8Size = 1) :
    (String.ofList chars).utf8ByteSize = chars.length := by
  induction chars with
  | nil => rfl
  | cons c chars ih =>
      obtain ⟨first, others⟩ := List.forall_mem_cons.mp single
      rw [String.ofList_cons, String.utf8ByteSize_append, String.utf8ByteSize_singleton, first,
        ih others, List.length_cons, Nat.add_comm]

theorem utf8ByteSize_toString (number : Nat) :
    (toString number).utf8ByteSize = (toString number).length := by
  rw [← String.length_toList, ← utf8ByteSize_ofList_of_single_bytes, String.ofList_toList]
  intro c member
  rw [Nat.toString_eq_repr, Nat.toList_repr] at member
  have digit := Nat.isDigit_of_mem_toDigits (by decide) (by decide) member
  rw [Char.utf8Size_eq_one_iff]
  simp only [Char.isDigit, ge_iff_le, Bool.and_eq_true, decide_eq_true_eq] at digit
  grind

theorem fileNameFault?_flatName_eq_none_iff {rule : Nat} :
    fileNameFault? (flatName rule) = none ↔ rule < 10 ^ 247 := by
  have nul : '\x00' ∉ (flatName rule).toList := by
    simpa [flatName] using notMem_toString (by decide) rule
  have front : "atn_".utf8ByteSize = 4 := by decide
  have ending : ".dot".utf8ByteSize = 4 := by decide
  have digits : (toString rule).length ≤ 247 ↔ rule < 10 ^ 247 :=
    Nat.length_repr_le_iff (by decide)
  rw [fileNameFault?_eq_none_iff, and_iff_right nul, flatName, String.utf8ByteSize_append,
    String.utf8ByteSize_append, front, ending, utf8ByteSize_toString, longestName, ← digits]
  omega

end Document

namespace Automaton

open FileTree Sink TransitionNetwork.Path

variable (automaton : Automaton)

theorem forall_val_lt_iff {count bound : Nat} :
    (∀ index : Fin count, index.val < bound) ↔ count ≤ bound := by
  constructor
  · intro below
    by_contra more
    exact absurd (below ⟨bound, Nat.lt_of_not_le more⟩) (Nat.lt_irrefl bound)
  · intro few index
    exact Nat.lt_of_lt_of_le index.isLt few

theorem names_fileable_iff (options : Options) :
    (∀ document ∈ automaton.documents options, fileNameFault? document.name = none) ↔
      (options.focused = true → ∀ name ∈ automaton.ruleNames, Document.IsFileable name) ∧
      (options.flat = true → automaton.ruleCount ≤ 10 ^ 247) := by
  rw [automaton.forall_names_iff options fun name => fileNameFault? name = none,
    ← forall_val_lt_iff]
  simp only [Document.fileNameFault?_focusedName_eq_none_iff, Document.fileNameFault?_fullName,
    Document.fileNameFault?_flatName_eq_none_iff, implies_true, true_and]

/-- What a run leaves in a directory that takes every file: the documents that files can be named
after are there, and nothing else has changed but missing places on the way to the root, which have
become directories. -/
structure LeavesFileable (options : Options) (root : String) (tree after : FileTree) : Prop where
  readFile_eq : ∀ document ∈ fileable (automaton.documents options),
    after.readFile (join root document.name) = .ok document.content.toUTF8
  entry?_eq : ∀ other, (∀ document ∈ fileable (automaton.documents options),
      other ≠ place (join root document.name)) →
    after.entry? other = tree.entry? other ∨
      other ∈ passed root ∧ tree.entry? other = none ∧ after.entry? other = some .directory

theorem exists_writesInTurn_by_name (options : Options) {root : String} {tree made : FileTree}
    (rootMade : perform (fileSystem.ensureDirectories root) tree = (.ok (), made))
    (fresh : ∀ document ∈ automaton.documents options,
      made.entry? (place (join root document.name)) ≠ some .directory)
    (roomy : ∀ limit ∈ tree.pathLimit, root.utf8ByteSize + 1 + longestName ≤ limit) :
    ∃ after, (directory fileSystem root).WritesInTurn tree (automaton.documents options)
        ((automaton.documents options).map attemptByName) after ∧
      automaton.LeavesFileable options root tree after := by
  have held := hasDirectory_of_ensureDirectories rootMade
  have grows := growsTo_ensureDirectories root tree
  rw [rootMade] at grows
  have again (later : FileTree) (sameLimit : later.pathLimit = made.pathLimit)
      (kept : later.HasDirectory root) := perform_ensureDirectories_again rootMade sameLimit kept
  have component (document : Document) (member : document ∈ automaton.documents options) :=
    automaton.isComponent_of_mem_documents member
  have room : ∀ document ∈ fileable (automaton.documents options),
      HasRoomFor made root document := by
    intro document member
    obtain ⟨listed, usable⟩ := mem_fileable.mp member
    obtain ⟨whole, short⟩ := fileNameFault?_eq_none_iff.mp usable
    refine ⟨component document listed, ⟨whole, short, ?_⟩, ?_⟩
    · intro limit limited
      rw [grows.pathLimit_eq] at limited
      have joined := utf8ByteSize_join_le root document.name
      have bound := roomy limit limited
      omega
    · rw [← place_join root (component document listed)]
      exact fresh document listed
  have distinct : ((fileable (automaton.documents options)).map (·.name)).Nodup :=
    (automaton.names_documents_nodup options).sublist (List.filter_sublist.map _)
  -- without any document the root is not made
  by_cases none : automaton.documents options = []
  · refine ⟨tree, ?_, ?_, fun other _ => Or.inl rfl⟩
    · rw [none]
      exact .nil tree
    · simp [none, fileable]
  · refine ⟨made.putFiles (place root) (fileable (automaton.documents options)),
      (writesInTurn_directory_by_name held again component room).of_made rootMade none, ?_, ?_⟩
    · intro document member
      have kept := held.putFiles fun document member => (room document member).free
      have taken : (made.putFiles (place root) (fileable (automaton.documents options))).Takes root
          document.name := (room document member).taken.of_pathLimit_eq rfl
      exact readFile_join kept (room document member).component taken
        (entry?_putFiles_of_mem distinct member)
    · intro other apart
      rw [entry?_putFiles_of_ne]
      · exact grows.grown other
      · intro document member
        rw [← place_join root (room document member).component]
        exact apart document member

end Automaton

namespace CommandLine

open FileTree Sink TransitionNetwork.Path

variable {words : List String} {standardInput : ByteArray} {tree made : FileTree}
  {arguments : Arguments} {automaton : Automaton}

/-! ## An empty tree -/

theorem entry?_empty {place : Place} (below : place ≠ []) :
    FileTree.entry? {} place = none := by
  rw [entry?_eq_get? _ below]
  rfl

theorem fresh_empty (automaton : Automaton) {options : Options} {document : Document}
    (member : document ∈ automaton.documents options) :
    FileTree.entry? {} (place (join "." document.name)) ≠ some .directory := by
  rw [place_join "." (automaton.isComponent_of_mem_documents member), entry?_empty (by simp)]
  exact nofun

theorem rootMade_empty :
    TransitionNetwork.perform (fileSystem.ensureDirectories ".") {} = (.ok (), {}) := by
  rfl

theorem roomy_empty (limit : Nat) (limited : limit ∈ FileTree.pathLimit {}) :
    ".".utf8ByteSize + 1 + longestName ≤ limit := by
  cases limited
  decide

/-! ## Whole runs -/

/-- The exit code of a run that renders tells whether every attempt went well. -/
theorem Loads.run_of_renders (loads : Loads words standardInput tree arguments automaton)
    (render : arguments.command = .render) {attempts : List (Attempt Fault)} {after : FileTree}
    (turns : Renders arguments automaton tree attempts after) :
    ∃ outcome, (run (Host.onTree standardInput) words).run tree = (outcome, after) ∧
      (outcome.exitCode = 0 ∧ (∀ attempt ∈ attempts, attempt.refusal = none) ∨
        outcome.exitCode = 4 ∧ (¬ ∀ attempt ∈ attempts, attempt.refusal = none) ∧
          outcome.errors = complaint (automaton.documents arguments.options) attempts) := by
  rw [run_run]
  rcases (ends_execute words standardInput tree).of_loads loads with
    ⟨names, _⟩ | ⟨_, report, turns', ending⟩
  · rw [names] at render
    cases render
  · obtain ⟨rfl, left⟩ := turns.unique turns'
    rw [← left]
    refine ⟨_, rfl, ?_⟩
    rcases ending with ⟨success, ended⟩ | ⟨failure, ended⟩
    · rw [ended]
      exact Or.inl ⟨rfl, report.isSuccess_iff.mp success⟩
    · rw [ended]
      refine Or.inr ⟨rfl, ?_, message_writing report _ turns'.names_eq⟩
      rw [← report.isSuccess_iff, failure]
      exact nofun

/-- What a run does that renders into a directory that takes every file. -/
structure RendersByName (arguments : Arguments) (automaton : Automaton) (tree : FileTree)
    (outcome : Outcome) (after : FileTree) : Prop where
  turns : Renders arguments automaton tree
    ((automaton.documents arguments.options).map attemptByName) after
  leaves : automaton.LeavesFileable arguments.options (arguments.directory.getD ".") tree after
  exitCode_mem : outcome.exitCode = 0 ∨ outcome.exitCode = 4
  success_iff : outcome.exitCode = 0 ↔
    (arguments.withoutFocused = false → ∀ name ∈ automaton.ruleNames, Document.IsFileable name) ∧
    (arguments.withoutFlat = false → automaton.ruleCount ≤ 10 ^ 247)
  errors_eq : outcome.exitCode = 4 → outcome.errors =
    complaint (automaton.documents arguments.options)
      ((automaton.documents arguments.options).map attemptByName)

theorem Loads.rendersByName (loads : Loads words standardInput tree arguments automaton)
    (render : arguments.command = .render) {after : FileTree}
    (turns : Renders arguments automaton tree
      ((automaton.documents arguments.options).map attemptByName) after)
    (leaves : automaton.LeavesFileable arguments.options (arguments.directory.getD ".") tree
      after) :
    RendersByName arguments automaton tree ((run (Host.onTree standardInput) words).run tree).1
      ((run (Host.onTree standardInput) words).run tree).2 := by
  have named : (∀ attempt ∈ (automaton.documents arguments.options).map attemptByName,
      attempt.refusal = none) ↔
        (arguments.withoutFocused = false →
          ∀ name ∈ automaton.ruleNames, Document.IsFileable name) ∧
        (arguments.withoutFlat = false → automaton.ruleCount ≤ 10 ^ 247) := by
    rw [List.forall_mem_map]
    have names := automaton.names_fileable_iff arguments.options
    simpa only [attemptByName, Arguments.options, Bool.not_eq_true'] using names
  obtain ⟨outcome, ran, ending⟩ := loads.run_of_renders render turns
  rw [ran]
  rw [named] at ending
  rcases ending with ⟨code, fileable⟩ | ⟨code, unfileable, errors⟩
  · refine ⟨turns, leaves, Or.inl code, iff_of_true code fileable, ?_⟩
    intro other
    simp [code] at other
  · exact ⟨turns, leaves, Or.inr code, iff_of_false (by simp [code]) unfileable, fun _ => errors⟩

/-- Into a directory that takes every file, a run writes the documents that files can be named after
and no others. It goes well exactly if these are all, so if no rule that has a focused document has
a NUL or more than 238 bytes in its name. That a snapshot is accepted does not tell this. -/
theorem render_writes_documents_files_can_be_named_after
    (loads : Loads words standardInput tree arguments automaton)
    (render : arguments.command = .render)
    (rootMade : TransitionNetwork.perform
      (fileSystem.ensureDirectories (arguments.directory.getD ".")) tree = (.ok (), made))
    (fresh : ∀ document ∈ automaton.documents arguments.options,
      made.entry? (place (join (arguments.directory.getD ".") document.name)) ≠ some .directory)
    (roomy : ∀ limit ∈ tree.pathLimit,
      (arguments.directory.getD ".").utf8ByteSize + 1 + longestName ≤ limit) :
    RendersByName arguments automaton tree ((run (Host.onTree standardInput) words).run tree).1
      ((run (Host.onTree standardInput) words).run tree).2 := by
  obtain ⟨after, turns, leaves⟩ :=
    automaton.exists_writesInTurn_by_name arguments.options rootMade fresh roomy
  exact loads.rendersByName render turns leaves

/-- One rule that no file can be named after, and one that a file can. -/
def mixedSnapshot : Snapshot where
  ruleNames := ["a\x00b", "c"]
  states := [{ id := 4, ruleIndex := 1, transitions := [{ target := 4 }] }]

theorem render_writes_documents_of_mixedSnapshot :
    ∃ automaton,
      Loads [] mixedSnapshot.toJson.toUTF8 {} {} automaton ∧
      TransitionNetwork.perform (fileSystem.ensureDirectories ".") {} = (.ok (), {}) ∧
      (∀ document ∈ automaton.documents {},
        FileTree.entry? {} (place (join "." document.name)) ≠ some .directory) ∧
      (∀ limit ∈ FileTree.pathLimit {}, ".".utf8ByteSize + 1 + longestName ≤ limit) ∧
      RendersByName {} automaton {}
        ((run (Host.onTree mixedSnapshot.toJson.toUTF8) []).run {}).1
        ((run (Host.onTree mixedSnapshot.toJson.toUTF8) []).run {}).2 := by
  obtain ⟨automaton, accepted⟩ :=
    Automaton.exists_ofSnapshot (show mixedSnapshot.IsConsistent by decide)
  have loads : Loads [] mixedSnapshot.toJson.toUTF8 {} {} automaton :=
    loads_toJson accepted rfl rfl {}
  have fresh : ∀ document ∈ automaton.documents {},
      FileTree.entry? {} (place (join "." document.name)) ≠ some .directory :=
    fun _ => fresh_empty automaton
  exact ⟨automaton, loads, rootMade_empty, fresh, roomy_empty,
    render_writes_documents_files_can_be_named_after loads rfl rootMade_empty fresh roomy_empty⟩

/-! ## Rules that are accepted and cannot be rendered -/

/-- The default run fails for a snapshot with such a rule, even where nothing is in the way. -/
theorem exists_failing_run {snapshot : Snapshot} (consistent : snapshot.IsConsistent)
    {name : String} (declared : name ∈ snapshot.ruleNames)
    (unfileable : ¬ Document.IsFileable name) :
    ∃ automaton, Automaton.ofSnapshot snapshot = .ok automaton ∧ name ∈ automaton.ruleNames ∧
      ((run (Host.onTree snapshot.toJson.toUTF8) []).run {}).1.exitCode = 4 := by
  obtain ⟨automaton, accepted⟩ := Automaton.exists_ofSnapshot consistent
  have member : name ∈ automaton.ruleNames := by
    rwa [← Array.mem_toList_iff, (Automaton.isCopyOf_of_ofSnapshot accepted).ruleNames_eq]
  refine ⟨automaton, accepted, member, ?_⟩
  have loads : Loads [] snapshot.toJson.toUTF8 {} {} automaton := loads_toJson accepted rfl rfl {}
  obtain ⟨after, turns, leaves⟩ := automaton.exists_writesInTurn_by_name {} rootMade_empty
    (fun _ => fresh_empty automaton) roomy_empty
  have renders := loads.rendersByName rfl turns leaves
  refine renders.exitCode_mem.resolve_left ?_
  rw [renders.success_iff]
  exact fun fileable => unfileable (fileable.1 rfl name member)

/-- No states, and one rule of the name. -/
def namedSnapshot (name : String) : Snapshot where
  ruleNames := [name]
  states := []

theorem isConsistent_namedSnapshot {name : String} (usable : IsUsableRuleName name) :
    (namedSnapshot name).IsConsistent where
  usable := List.forall_mem_singleton.mpr usable
  ruleNames_nodup := List.nodup_singleton name
  ids_nodup := List.nodup_nil
  rule_declared := nofun
  target_known := nofun

/-- A name of so many letters. -/
def lettersName (count : Nat) : String :=
  String.ofList (List.replicate count 'a')

theorem utf8ByteSize_lettersName (count : Nat) : (lettersName count).utf8ByteSize = count := by
  have single : ∀ c ∈ List.replicate count 'a', c.utf8Size = 1 := by
    intro c member
    rw [List.eq_of_mem_replicate member]
    rfl
  rw [lettersName, Document.utf8ByteSize_ofList_of_single_bytes single, List.length_replicate]

theorem isUsableRuleName_lettersName {count : Nat} (many : 2 < count) :
    IsUsableRuleName (lettersName count) := by
  have apart {other : String} (short : other.utf8ByteSize ≤ 2) : lettersName count ≠ other := by
    intro same
    rw [← same, utf8ByteSize_lettersName] at short
    omega
  have letters : ∀ c ∈ (lettersName count).toList, c = 'a' := by
    intro c member
    rw [lettersName, String.toList_ofList] at member
    exact List.eq_of_mem_replicate member
  refine ⟨apart (by decide), apart (by decide), apart (by decide), ?_, ?_⟩
  · exact fun member => absurd (letters _ member) (by decide)
  · exact fun member => absurd (letters _ member) (by decide)

/-- Both names are accepted, although no file can be named after the focused document. -/
theorem default_render_fails_for_accepted_names :
    (∃ automaton, Automaton.ofSnapshot (namedSnapshot "a\x00b") = .ok automaton ∧
      (∃ name ∈ automaton.ruleNames, '\x00' ∈ (Document.focusedName name).toList) ∧
      ((run (Host.onTree (namedSnapshot "a\x00b").toJson.toUTF8) []).run {}).1.exitCode = 4) ∧
    ∃ automaton, Automaton.ofSnapshot (namedSnapshot (lettersName 239)) = .ok automaton ∧
      (∃ name ∈ automaton.ruleNames, 255 < (Document.focusedName name).utf8ByteSize) ∧
      ((run (Host.onTree (namedSnapshot (lettersName 239)).toJson.toUTF8) []).run {}).1.exitCode =
        4 := by
  constructor
  · have usable : IsUsableRuleName "a\x00b" := by decide
    obtain ⟨automaton, accepted, member, failed⟩ := exists_failing_run
      (isConsistent_namedSnapshot usable) List.mem_cons_self
      (fun fileable => absurd fileable.nul_notMem (by decide))
    exact ⟨automaton, accepted, ⟨_, member, by decide⟩, failed⟩
  · have usable : IsUsableRuleName (lettersName 239) := isUsableRuleName_lettersName (by decide)
    obtain ⟨automaton, accepted, member, failed⟩ := exists_failing_run
      (isConsistent_namedSnapshot usable) List.mem_cons_self
      (fun fileable => absurd fileable.short (by rw [utf8ByteSize_lettersName]; decide))
    refine ⟨automaton, accepted, ⟨_, member, ?_⟩, failed⟩
    rw [Document.utf8ByteSize_focusedName, utf8ByteSize_lettersName]
    decide

end CommandLine

end TransitionNetwork
