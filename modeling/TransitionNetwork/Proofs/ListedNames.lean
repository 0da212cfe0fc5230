import TransitionNetwork.Proofs.Acceptance
import TransitionNetwork.Proofs.DocumentNames
import TransitionNetwork.Proofs.RunEnds
import TransitionNetwork.Proofs.SnapshotRoundTrip

/-!
# Listed names

Listing the names of documents prints one after the other, each with a line break behind it. Cut
into lines again, the listing gives the names back unless one of them has a line break inside it.
The only names that can have one are those of focused documents: the name of a rule may have one.
-/

set_option autoImplicit false

namespace TransitionNetwork

/-! ## Cutting at line breaks -/

/-- What stands between the line breaks of a text. -/
def partsAtBreaks (text : String) : List String :=
  (text.toList.splitOn '\n').map String.ofList

/-- The lines of a text that ends each line with a line break. -/
def linesOf (text : String) : List String :=
  (partsAtBreaks text).dropLast

theorem partsAtBreaks_eq_singleton {text : String} (unbroken : '\n' ∉ text.toList) :
    partsAtBreaks text = [text] := by
  rw [partsAtBreaks, List.splitOn_eq_singleton unbroken, List.map_singleton, String.ofList_toList]

theorem partsAtBreaks_append_break (text rest : String) :
    partsAtBreaks (text ++ "\n" ++ rest) = partsAtBreaks text ++ partsAtBreaks rest := by
  have chars : (text ++ "\n" ++ rest).toList = text.toList ++ '\n' :: rest.toList := by simp
  rw [partsAtBreaks, chars, List.splitOn_append_cons_self, List.map_append]
  rfl

theorem break_notMem_of_mem_splitOn {part chars : List Char}
    (member : part ∈ chars.splitOn '\n') : '\n' ∉ part := by
  induction chars generalizing part with
  | nil =>
      rw [List.splitOn_nil, List.mem_singleton] at member
      rw [member]
      exact List.not_mem_nil
  | cons c chars ih =>
      by_cases isBreak : c = '\n'
      · rw [isBreak] at member
        have cut := List.splitOn_append_cons_self (a := '\n') [] chars
        rw [List.nil_append, List.splitOn_nil, List.singleton_append] at cut
        rw [cut, List.mem_cons] at member
        rcases member with rfl | later
        · exact List.not_mem_nil
        · exact ih later
      · cases parts : chars.splitOn '\n' with
        | nil => exact absurd parts (List.splitOn_ne_nil '\n' chars)
        | cons first others =>
            have cut : (c :: chars).splitOn '\n' = (c :: first) :: others := by
              rw [List.splitOn_cons_eq_if_modifyHead, parts, if_neg (by simpa using isBreak)]
              rfl
            rw [cut, List.mem_cons] at member
            rcases member with rfl | later
            · have unbroken : '\n' ∉ first := ih (parts ▸ List.mem_cons_self)
              simp [unbroken, Ne.symm isBreak]
            · exact ih (parts ▸ List.mem_cons_of_mem _ later)

theorem break_notMem_of_mem_partsAtBreaks {part text : String}
    (member : part ∈ partsAtBreaks text) : '\n' ∉ part.toList := by
  obtain ⟨chars, inside, rfl⟩ := List.mem_map.mp member
  rw [String.toList_ofList]
  exact break_notMem_of_mem_splitOn inside

namespace CommandLine

/-! ## The lines of a listing -/

theorem listing_cons (document : Document) (documents : List Document) :
    listing (document :: documents) = document.name ++ "\n" ++ listing documents := by
  rw [listing, List.map_cons, String.join_cons]
  rfl

theorem partsAtBreaks_listing (documents : List Document) :
    partsAtBreaks (listing documents) =
      documents.flatMap (fun document => partsAtBreaks document.name) ++ [""] := by
  induction documents with
  | nil => rfl
  | cons document documents ih =>
      rw [listing_cons, partsAtBreaks_append_break, ih, List.flatMap_cons, List.append_assoc]

theorem linesOf_listing (documents : List Document) :
    linesOf (listing documents) = (documents.map Document.name).flatMap partsAtBreaks := by
  rw [linesOf, partsAtBreaks_listing, List.dropLast_concat, List.flatMap_map]

/-- A line never has a line break inside it, so a name that has one is on no line. -/
theorem linesOf_listing_eq_names_iff (documents : List Document) :
    linesOf (listing documents) = documents.map Document.name ↔
      ∀ document ∈ documents, '\n' ∉ document.name.toList := by
  rw [linesOf_listing]
  constructor
  · intro same document member
    have onLine : document.name ∈ (documents.map Document.name).flatMap partsAtBreaks := by
      rw [same]
      exact List.mem_map_of_mem member
    obtain ⟨_, _, part⟩ := List.mem_flatMap.mp onLine
    exact break_notMem_of_mem_partsAtBreaks part
  · intro unbroken
    have whole : ∀ name ∈ documents.map Document.name, partsAtBreaks name = [name] := by
      intro name member
      obtain ⟨document, listed, rfl⟩ := List.mem_map.mp member
      exact partsAtBreaks_eq_singleton (unbroken document listed)
    rw [List.flatMap_congr whole, List.flatMap_singleton']

end CommandLine

/-! ## Which names can be broken -/

theorem Document.break_notMem_focusedName {ruleName : String} :
    '\n' ∉ (focusedName ruleName).toList ↔ '\n' ∉ ruleName.toList := by
  simp [focusedName]

theorem Document.break_notMem_fullName : '\n' ∉ fullName.toList := by
  decide

theorem Document.break_notMem_flatName (rule : Nat) : '\n' ∉ (flatName rule).toList := by
  simpa [flatName] using notMem_toString (by decide) rule

namespace Automaton

variable (automaton : Automaton)

theorem exists_rule_of_mem_ruleNames {name : String} (member : name ∈ automaton.ruleNames) :
    ∃ rule, automaton.ruleName rule = name := by
  obtain ⟨position, inside, rfl⟩ := Array.getElem_of_mem member
  exact ⟨⟨position, inside⟩, rfl⟩

theorem mem_documents_iff {options : Options} {document : Document} :
    document ∈ automaton.documents options ↔
      (options.focused = true ∧ ∃ rule, automaton.focused rule = document) ∨
      (options.full = true ∧ document = automaton.full options.title) ∨
      (options.flat = true ∧ ∃ rule, automaton.flat rule = document) := by
  have everyRule (rule : Fin automaton.ruleCount) : rule ∈ automaton.rules := List.mem_finRange rule
  rw [documents, List.mem_append, List.mem_append, or_assoc, List.mem_ite_nil_right,
    List.mem_ite_nil_right, List.mem_ite_nil_right, List.mem_map, List.mem_singleton, List.mem_map]
  simp only [everyRule, true_and]

theorem name_focused (rule : Fin automaton.ruleCount) :
    (automaton.focused rule).name = Document.focusedName (automaton.ruleName rule) := rfl

theorem name_flat (rule : Fin automaton.ruleCount) :
    (automaton.flat rule).name = Document.flatName rule := rfl

/-- What holds of all names holds of those of each family that is wanted. -/
theorem forall_names_iff (options : Options) (P : String → Prop) :
    (∀ document ∈ automaton.documents options, P document.name) ↔
      (options.focused = true → ∀ name ∈ automaton.ruleNames, P (Document.focusedName name)) ∧
      (options.full = true → P Document.fullName) ∧
      (options.flat = true → ∀ rule : Fin automaton.ruleCount, P (Document.flatName rule)) := by
  constructor
  · intro each
    refine ⟨?_, ?_, ?_⟩
    · intro wanted name member
      obtain ⟨rule, rfl⟩ := automaton.exists_rule_of_mem_ruleNames member
      rw [← name_focused]
      exact each _ (automaton.mem_documents_iff.mpr (Or.inl ⟨wanted, rule, rfl⟩))
    · intro wanted
      exact each _ (automaton.mem_documents_iff.mpr (Or.inr (Or.inl ⟨wanted, rfl⟩)))
    · intro wanted rule
      rw [← name_flat]
      exact each _ (automaton.mem_documents_iff.mpr (Or.inr (Or.inr ⟨wanted, rule, rfl⟩)))
  · rintro ⟨focused, full, flat⟩ document member
    rcases automaton.mem_documents_iff.mp member with
      ⟨wanted, rule, rfl⟩ | ⟨wanted, rfl⟩ | ⟨wanted, rule, rfl⟩
    · rw [name_focused]
      exact focused wanted _ (automaton.ruleName_mem rule)
    · exact full wanted
    · rw [name_flat]
      exact flat wanted rule

theorem names_unbroken_iff (options : Options) :
    (∀ document ∈ automaton.documents options, '\n' ∉ document.name.toList) ↔
      options.focused = false ∨ ∀ name ∈ automaton.ruleNames, '\n' ∉ name.toList := by
  rw [automaton.forall_names_iff options fun name => '\n' ∉ name.toList]
  simp only [Document.break_notMem_focusedName]
  constructor
  · rintro ⟨unbroken, _⟩
    cases wanted : options.focused with
    | false => exact Or.inl rfl
    | true => exact Or.inr (unbroken wanted)
  · intro sound
    refine ⟨?_, fun _ => Document.break_notMem_fullName,
      fun _ rule => Document.break_notMem_flatName rule⟩
    intro wanted
    exact sound.resolve_left (by simp [wanted])

end Automaton

namespace CommandLine

variable {words words' : List String} {standardInput : ByteArray} {tree : FileTree}
  {arguments : Arguments} {automaton : Automaton}

/-- The same automaton is loaded with every command and every directory. -/
theorem Loads.of_parse (loads : Loads words standardInput tree arguments automaton)
    {command : Command} {directory : Option String}
    (parsed : Arguments.parse words' = some { arguments with command, directory }) :
    Loads words' standardInput tree { arguments with command, directory } automaton := by
  obtain ⟨text, _, read, built⟩ := loads
  exact ⟨text, parsed, read, built⟩

theorem Loads.run_names (loads : Loads words standardInput tree arguments automaton)
    (names : arguments.command = .names) :
    ((run (Host.onTree standardInput) words).run tree).1 =
      { exitCode := 0, output := listing (automaton.documents arguments.options), errors := "" } := by
  rw [run_run]
  rcases (ends_execute words standardInput tree).of_loads loads with
    ⟨_, _, listed⟩ | ⟨render, _⟩
  · rw [listed]
    rfl
  · rw [names] at render
    cases render

theorem Loads.run_render (loads : Loads words standardInput tree arguments automaton)
    (render : arguments.command = .render) :
    ∃ attempts,
      Renders arguments automaton tree attempts
        ((run (Host.onTree standardInput) words).run tree).2 ∧
      attempts.map (·.name) = (automaton.documents arguments.options).map (·.name) := by
  obtain ⟨attempts, turns, names, _⟩ :=
    (ends_execute words standardInput tree).renders loads render
  exact ⟨attempts, turns, names⟩

/-- Listing prints the names of the documents that a run with the same switches, title and input
tries to write, in order, each with a line break behind it. Its lines are those names exactly if
focused documents are left out or no rule has a line break in its name. -/
theorem names_prints_attempted_names {directory : Option String}
    (loads : Loads words standardInput tree arguments automaton)
    (names : arguments.command = .names)
    (parsed : Arguments.parse words' = some { arguments with command := .render, directory }) :
    ((run (Host.onTree standardInput) words).run tree).1.exitCode = 0 ∧
    ∃ attempts,
      Renders { arguments with command := .render, directory } automaton tree attempts
        ((run (Host.onTree standardInput) words').run tree).2 ∧
      linesOf ((run (Host.onTree standardInput) words).run tree).1.output =
        (attempts.map (·.name)).flatMap partsAtBreaks ∧
      (linesOf ((run (Host.onTree standardInput) words).run tree).1.output =
          attempts.map (·.name) ↔
        arguments.withoutFocused = true ∨
          ∀ name ∈ automaton.ruleNames, '\n' ∉ name.toList) := by
  have listed := loads.run_names names
  obtain ⟨attempts, turns, attempted⟩ := (loads.of_parse parsed).run_render rfl
  have documents_eq : automaton.documents
      { arguments with command := Command.render, directory : Arguments }.options =
        automaton.documents arguments.options := rfl
  rw [documents_eq] at attempted
  refine ⟨by rw [listed], attempts, turns, ?_, ?_⟩
  · rw [listed, attempted, linesOf_listing]
  · rw [listed, attempted, linesOf_listing_eq_names_iff, automaton.names_unbroken_iff]
    simp only [Arguments.options, Bool.not_eq_false', Array.mem_def]

/-! ## Listings of written snapshots -/

theorem ofText_toJson {snapshot : Snapshot} {automaton : Automaton}
    (accepted : Automaton.ofSnapshot snapshot = .ok automaton) :
    Automaton.ofText snapshot.toJson = .ok automaton := by
  have read : Snapshot.ofJson .text snapshot.toJson.toUTF8.data.toList = .ok snapshot :=
    Snapshot.ofJson_toJson .text snapshot
  rw [Automaton.ofText, Automaton.load, read]
  simp only [accepted]

theorem loads_toJson {snapshot : Snapshot}
    (accepted : Automaton.ofSnapshot snapshot = .ok automaton)
    (parsed : Arguments.parse words = some arguments) (fromStandardInput : arguments.input = none)
    (tree : FileTree) :
    Loads words snapshot.toJson.toUTF8 tree arguments automaton := by
  have decoded : FileSystem.textOfBytes snapshot.toJson.toUTF8 = .ok snapshot.toJson := by
    rw [FileSystem.textOfBytes, String.toUTF8_eq_toByteArray, String.fromUTF8?,
      dif_pos snapshot.toJson.isValidUTF8]
    rfl
  refine ⟨snapshot.toJson, parsed, ?_, ofText_toJson accepted⟩
  rw [fromStandardInput]
  exact decoded

/-- Rules with blanks and quotes in their names, but no line breaks. -/
def spacedSnapshot : Snapshot where
  ruleNames := ["left hand", "\"right\" hand"]
  states := [{ id := 4, ruleIndex := 1, transitions := [{ target := 4 }] }]

theorem names_prints_names_of_spacedSnapshot :
    ∃ automaton,
      Loads ["names", "--no-full"] spacedSnapshot.toJson.toUTF8 {}
        { command := .names, withoutFull := true } automaton ∧
      ∃ attempts,
        Renders { directory := some "out", withoutFull := true } automaton {} attempts
          ((run (Host.onTree spacedSnapshot.toJson.toUTF8)
            ["--no-full", "--out-dir", "out"]).run {}).2 ∧
        linesOf ((run (Host.onTree spacedSnapshot.toJson.toUTF8)
          ["names", "--no-full"]).run {}).1.output = attempts.map (·.name) := by
  obtain ⟨automaton, accepted⟩ :=
    Automaton.exists_ofSnapshot (show spacedSnapshot.IsConsistent by decide)
  have loads : Loads ["names", "--no-full"] spacedSnapshot.toJson.toUTF8 {}
      { command := .names, withoutFull := true } automaton := loads_toJson accepted rfl rfl {}
  have parsed : Arguments.parse ["--no-full", "--out-dir", "out"] =
      some { directory := some "out", withoutFull := true } := rfl
  obtain ⟨_, attempts, turns, _, lines⟩ := names_prints_attempted_names loads rfl parsed
  refine ⟨automaton, loads, attempts, turns, lines.mpr (Or.inr ?_)⟩
  intro name member
  have declared : name ∈ spacedSnapshot.ruleNames := by
    rw [← (Automaton.isCopyOf_of_ofSnapshot accepted).ruleNames_eq]
    exact Array.mem_toList_iff.mpr member
  exact (show ∀ name ∈ spacedSnapshot.ruleNames, '\n' ∉ name.toList by decide) name declared

/-- One rule with a line break in its name. -/
def brokenSnapshot : Snapshot where
  ruleNames := ["a\nb"]
  states := []

/-- A caller that reads lines gets names of no document. -/
theorem names_breaks_name_of_brokenSnapshot :
    ∃ automaton attempts,
      Loads ["names"] brokenSnapshot.toJson.toUTF8 {} { command := .names } automaton ∧
      Renders {} automaton {} attempts
        ((run (Host.onTree brokenSnapshot.toJson.toUTF8) []).run {}).2 ∧
      linesOf ((run (Host.onTree brokenSnapshot.toJson.toUTF8) ["names"]).run {}).1.output ≠
        attempts.map (·.name) := by
  obtain ⟨automaton, accepted⟩ :=
    Automaton.exists_ofSnapshot (show brokenSnapshot.IsConsistent by decide)
  have loads : Loads ["names"] brokenSnapshot.toJson.toUTF8 {} { command := .names } automaton :=
    loads_toJson accepted rfl rfl {}
  have loads' : Loads [] brokenSnapshot.toJson.toUTF8 {} {} automaton :=
    loads_toJson accepted rfl rfl {}
  obtain ⟨attempts, turns, attempted⟩ := loads'.run_render rfl
  refine ⟨automaton, attempts, loads, turns, ?_⟩
  have broken : "a\nb" ∈ automaton.ruleNames := by
    rw [← Array.mem_toList_iff, (Automaton.isCopyOf_of_ofSnapshot accepted).ruleNames_eq]
    exact List.mem_singleton_self _
  intro same
  rw [loads.run_names rfl, attempted] at same
  rcases (automaton.names_unbroken_iff _).mp ((linesOf_listing_eq_names_iff _).mp same) with
    unwanted | unbroken
  · cases unwanted
  · exact absurd (unbroken _ broken) (by decide)

end CommandLine

end TransitionNetwork
