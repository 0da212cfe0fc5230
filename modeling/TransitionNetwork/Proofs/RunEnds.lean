import TransitionNetwork.CommandLine
import TransitionNetwork.Proofs.MakingDirectories
import TransitionNetwork.Proofs.WritingInTurn

/-!
# Ends of a run

A run of the command line ends in one of six ways. Its exit code tells which stage ended it, and
only a run that renders documents changes any file.
-/

set_option autoImplicit false

namespace TransitionNetwork.CommandLine

open FileTree (fileSystem)

variable {words : List String} {standardInput : ByteArray} {tree after : FileTree}
  {arguments : Arguments} {automaton : Automaton}

/-- The text of the input. -/
def inputText (input : Option String) (standardInput : ByteArray) (tree : FileTree) :
    Except Fault String :=
  match input with
  | none => FileSystem.textOfBytes standardInput
  | some path =>
    if path = "-" then FileSystem.textOfBytes standardInput
    else tree.readFile path >>= FileSystem.textOfBytes

/-- The words and the input lead to these arguments and this automaton. -/
def Loads (words : List String) (standardInput : ByteArray) (tree : FileTree)
    (arguments : Arguments) (automaton : Automaton) : Prop :=
  ∃ text, Arguments.parse words = some arguments ∧
    inputText arguments.input standardInput tree = .ok text ∧ Automaton.ofText text = .ok automaton

/-- The input is no text, or one of no automaton. -/
def Unsound (standardInput : ByteArray) (tree : FileTree) (arguments : Arguments) : Prop :=
  (∃ fault, inputText arguments.input standardInput tree = .error fault) ∨
    ∃ text error, inputText arguments.input standardInput tree = .ok text ∧
      Automaton.ofText text = .error error

/-- The documents of the arguments are written one after the other, whatever becomes of each. -/
def Renders (arguments : Arguments) (automaton : Automaton) (tree : FileTree)
    (attempts : List (Attempt Fault)) (after : FileTree) : Prop :=
  (Sink.directory fileSystem (arguments.directory.getD ".")).WritesInTurn tree
    (automaton.documents arguments.options) attempts after

/-- The ways in which a run ends, with what it leaves behind. -/
inductive Ends (words : List String) (standardInput : ByteArray) (tree : FileTree) :
    Except Failure String → FileTree → Prop
  | misused (senseless : Arguments.parse words = none) :
      Ends words standardInput tree (.error .usage) tree
  | unreadable {arguments : Arguments} {fault : Fault}
      (parsed : Arguments.parse words = some arguments)
      (read : inputText arguments.input standardInput tree = .error fault) :
      Ends words standardInput tree (.error (.input fault)) tree
  | rejected {arguments : Arguments} {text : String} {error : LoadError}
      (parsed : Arguments.parse words = some arguments)
      (read : inputText arguments.input standardInput tree = .ok text)
      (built : Automaton.ofText text = .error error) :
      Ends words standardInput tree (.error (.snapshot error)) tree
  | listed {arguments : Arguments} {automaton : Automaton}
      (loads : Loads words standardInput tree arguments automaton)
      (command : arguments.command = .names) :
      Ends words standardInput tree (.ok (listing (automaton.documents arguments.options))) tree
  | written {arguments : Arguments} {automaton : Automaton} {report : Report Fault}
      {after : FileTree}
      (loads : Loads words standardInput tree arguments automaton)
      (command : arguments.command = .render)
      (turns : Renders arguments automaton tree report.attempts after)
      (success : report.isSuccess = true) :
      Ends words standardInput tree (.ok "") after
  | refused {arguments : Arguments} {automaton : Automaton} {report : Report Fault}
      {after : FileTree}
      (loads : Loads words standardInput tree arguments automaton)
      (command : arguments.command = .render)
      (turns : Renders arguments automaton tree report.attempts after)
      (failure : report.isSuccess = false) :
      Ends words standardInput tree (.error (.writing ⟨report.attempted, report.failures⟩)) after

theorem perform_readFile (path : String) (tree : FileTree) :
    TransitionNetwork.perform (fileSystem.readFile path) tree = (tree.readFile path, tree) := by
  have current : TransitionNetwork.perform (ε := Fault) get tree = (.ok tree, tree) := rfl
  unfold fileSystem
  dsimp only
  rw [perform_bind, current]
  dsimp only
  cases tree.readFile path with
  | ok bytes => rfl
  | error fault => rfl

theorem perform_readInput (input : Option String) (standardInput : ByteArray) (tree : FileTree) :
    TransitionNetwork.perform (readInput (Host.onTree standardInput) input) tree =
      (inputText input standardInput tree, tree) := by
  cases input with
  | none => rfl
  | some path =>
      unfold readInput inputText
      dsimp only
      split
      · rfl
      · have reading : TransitionNetwork.perform ((Host.onTree standardInput).files.readFile path)
            tree = (tree.readFile path, tree) := perform_readFile path tree
        rw [perform_bind, reading]
        cases tree.readFile path with
        | ok bytes => rfl
        | error fault => rfl

theorem ends_perform (loads : Loads words standardInput tree arguments automaton) :
    Ends words standardInput tree
      (TransitionNetwork.perform
        (perform (Host.onTree standardInput) arguments automaton) tree).1
      (TransitionNetwork.perform
        (perform (Host.onTree standardInput) arguments automaton) tree).2 := by
  unfold perform
  dsimp only
  split
  · rename_i command
    exact .listed loads command
  · rename_i command
    rw [perform_bind, perform_lift]
    dsimp only
    rcases run : StateT.run ((Sink.directory (Host.onTree standardInput).files
      (arguments.directory.getD ".")).writeAll (automaton.documents arguments.options)) tree
      with ⟨report, after⟩
    have turns := Sink.run_writeAll_eq_iff.mp run
    dsimp only
    cases success : report.isSuccess with
    | true =>
        rw [Report.result, if_pos success]
        exact .written loads command turns success
    | false =>
        rw [Report.result, success]
        exact .refused loads command turns success

theorem ends_execute (words : List String) (standardInput : ByteArray) (tree : FileTree) :
    Ends words standardInput tree
      (TransitionNetwork.perform (execute (Host.onTree standardInput) words) tree).1
      (TransitionNetwork.perform (execute (Host.onTree standardInput) words) tree).2 := by
  unfold execute
  cases parsed : Arguments.parse words with
  | none => exact .misused parsed
  | some arguments =>
      have reading := perform_readInput arguments.input standardInput tree
      dsimp only
      rw [perform_bind, perform_lift]
      change (StateT.run (readInput (Host.onTree standardInput) arguments.input).run tree) = _
        at reading
      rw [reading]
      dsimp only
      cases read : inputText arguments.input standardInput tree with
      | error fault => exact .unreadable parsed read
      | ok text =>
          dsimp only
          cases built : Automaton.ofText text with
          | error error => exact .rejected parsed read built
          | ok automaton => exact ends_perform ⟨text, parsed, read, built⟩

/-! ## What the end tells -/

theorem Loads.unique (loads : Loads words standardInput tree arguments automaton)
    {arguments' : Arguments} {automaton' : Automaton}
    (loads' : Loads words standardInput tree arguments' automaton') :
    arguments' = arguments ∧ automaton' = automaton := by
  obtain ⟨text, parsed, read, built⟩ := loads
  obtain ⟨text', parsed', read', built'⟩ := loads'
  cases parsed.symm.trans parsed'
  cases read.symm.trans read'
  cases built.symm.trans built'
  exact ⟨rfl, rfl⟩

theorem Loads.parse_eq (loads : Loads words standardInput tree arguments automaton) :
    Arguments.parse words = some arguments := by
  obtain ⟨text, parsed, _⟩ := loads
  exact parsed

theorem Loads.sound (loads : Loads words standardInput tree arguments automaton) :
    ¬ ∃ arguments, Arguments.parse words = some arguments ∧
      Unsound standardInput tree arguments := by
  obtain ⟨text, parsed, read, built⟩ := loads
  rintro ⟨arguments', parsed', ⟨fault, unread⟩ | ⟨text', error, read', unbuilt⟩⟩
  · cases parsed.symm.trans parsed'
    cases read.symm.trans unread
  · cases parsed.symm.trans parsed'
    cases read.symm.trans read'
    cases built.symm.trans unbuilt

/-- The line that says which documents could not be written, and why. -/
def complaint (documents : List Document) (attempts : List (Attempt Fault)) : String :=
  let refused := attempts.filterMap fun attempt =>
    attempt.refusal.map fun fault => attempt.name ++ ": " ++ fault.message
  "failed to write " ++ toString refused.length ++ " of " ++ toString documents.length ++
    " documents: " ++ "; ".intercalate refused ++ "\n"

/-- What an exit code tells about a run, and what the run does to files and streams. -/
structure ExitContract (words : List String) (standardInput : ByteArray) (tree : FileTree)
    (outcome : Outcome) (after : FileTree) : Prop where
  exitCode_mem : outcome.exitCode ∈ [0, 1, 2, 4]
  usage_iff : outcome.exitCode = 2 ↔ Arguments.parse words = none
  input_iff : outcome.exitCode = 1 ↔ ∃ arguments, Arguments.parse words = some arguments ∧
    Unsound standardInput tree arguments
  writing_iff : outcome.exitCode = 4 ↔ ∃ arguments automaton attempts,
    Loads words standardInput tree arguments automaton ∧ arguments.command = .render ∧
      Renders arguments automaton tree attempts after ∧
      ∃ attempt ∈ attempts, attempt.refusal ≠ none
  unchanged : outcome.exitCode = 1 ∨ outcome.exitCode = 2 → after = tree
  unchanged_of_names : ∀ arguments, Arguments.parse words = some arguments →
    arguments.command = .names → after = tree
  output_of_names : outcome.output ≠ "" → outcome.exitCode = 0 ∧
    ∃ arguments, Arguments.parse words = some arguments ∧ arguments.command = .names
  renders : ∀ arguments automaton, Loads words standardInput tree arguments automaton →
    arguments.command = .render → ∃ attempts,
      Renders arguments automaton tree attempts after ∧
      attempts.map (·.name) = (automaton.documents arguments.options).map (·.name) ∧
      (outcome.exitCode = 4 →
        outcome.errors = complaint (automaton.documents arguments.options) attempts)

variable {result : Except Failure String}

/-- A run whose arguments and input are sound does what its command says. -/
theorem Ends.of_loads (ends : Ends words standardInput tree result after)
    (loads : Loads words standardInput tree arguments automaton) :
    (arguments.command = .names ∧ after = tree ∧
      result = .ok (listing (automaton.documents arguments.options))) ∨
    (arguments.command = .render ∧ ∃ report : Report Fault,
      Renders arguments automaton tree report.attempts after ∧
      ((report.isSuccess = true ∧ result = .ok "") ∨
        (report.isSuccess = false ∧
          result = .error (.writing ⟨report.attempted, report.failures⟩)))) := by
  obtain ⟨text, parsed, read, built⟩ := id loads
  cases ends with
  | misused senseless => simp [senseless] at parsed
  | unreadable parsed' read' =>
      cases parsed.symm.trans parsed'
      cases read.symm.trans read'
  | rejected parsed' read' built' =>
      cases parsed.symm.trans parsed'
      cases read.symm.trans read'
      cases built.symm.trans built'
  | listed loads' command =>
      obtain ⟨rfl, rfl⟩ := loads.unique loads'
      exact Or.inl ⟨command, rfl, rfl⟩
  | written loads' command turns success =>
      obtain ⟨rfl, rfl⟩ := loads.unique loads'
      exact Or.inr ⟨command, _, turns, Or.inl ⟨success, rfl⟩⟩
  | refused loads' command turns failure =>
      obtain ⟨rfl, rfl⟩ := loads.unique loads'
      exact Or.inr ⟨command, _, turns, Or.inr ⟨failure, rfl⟩⟩

theorem Ends.exitCode_mem (ends : Ends words standardInput tree result after) :
    (Outcome.of result).exitCode ∈ [0, 1, 2, 4] := by
  cases ends <;> simp [Outcome.of, Failure.exitCode]

theorem Ends.usage_iff (ends : Ends words standardInput tree result after) :
    (Outcome.of result).exitCode = 2 ↔ Arguments.parse words = none := by
  cases ends with
  | misused senseless => exact iff_of_true rfl senseless
  | unreadable parsed read => simp [Outcome.of, Failure.exitCode, parsed]
  | rejected parsed read built => simp [Outcome.of, Failure.exitCode, parsed]
  | listed loads command => simp [Outcome.of, loads.parse_eq]
  | written loads command turns success => simp [Outcome.of, loads.parse_eq]
  | refused loads command turns failure =>
      simp [Outcome.of, Failure.exitCode, loads.parse_eq]

theorem Ends.input_iff (ends : Ends words standardInput tree result after) :
    (Outcome.of result).exitCode = 1 ↔ ∃ arguments, Arguments.parse words = some arguments ∧
      Unsound standardInput tree arguments := by
  cases ends with
  | misused senseless => simp [Outcome.of, Failure.exitCode, senseless]
  | unreadable parsed read => exact iff_of_true rfl ⟨_, parsed, Or.inl ⟨_, read⟩⟩
  | rejected parsed read built => exact iff_of_true rfl ⟨_, parsed, Or.inr ⟨_, _, read, built⟩⟩
  | listed loads command => exact iff_of_false (by simp [Outcome.of]) loads.sound
  | written loads command turns success => exact iff_of_false (by simp [Outcome.of]) loads.sound
  | refused loads command turns failure =>
      exact iff_of_false (by simp [Outcome.of, Failure.exitCode]) loads.sound

theorem Ends.writing_iff (ends : Ends words standardInput tree result after) :
    (Outcome.of result).exitCode = 4 ↔ ∃ arguments automaton attempts,
      Loads words standardInput tree arguments automaton ∧ arguments.command = .render ∧
      Renders arguments automaton tree attempts after ∧
      ∃ attempt ∈ attempts, attempt.refusal ≠ none := by
  constructor
  · intro code
    cases ends with
    | misused senseless => simp [Outcome.of, Failure.exitCode] at code
    | unreadable parsed read => simp [Outcome.of, Failure.exitCode] at code
    | rejected parsed read built => simp [Outcome.of, Failure.exitCode] at code
    | listed loads command => simp [Outcome.of] at code
    | written loads command turns success => simp [Outcome.of] at code
    | refused loads command turns failure =>
        refine ⟨_, _, _, loads, command, turns, ?_⟩
        have some := mt (Report.isSuccess_iff _).mpr (Bool.eq_false_iff.mp failure)
        simpa using some
  · rintro ⟨arguments, automaton, attempts, loads, command, turns, attempt, member, refused⟩
    rcases ends.of_loads loads with ⟨other, _⟩ | ⟨_, report, turns', ⟨success, _⟩ | ⟨_, rfl⟩⟩
    · rw [command] at other
      cases other
    · have same : attempts = report.attempts := (turns.unique turns').1
      rw [same] at member
      exact absurd (report.isSuccess_iff.mp success attempt member) refused
    · rfl

theorem Ends.unchanged (ends : Ends words standardInput tree result after)
    (code : (Outcome.of result).exitCode = 1 ∨ (Outcome.of result).exitCode = 2) :
    after = tree := by
  cases ends with
  | written loads command turns success => simp [Outcome.of] at code
  | refused loads command turns failure => simp [Outcome.of, Failure.exitCode] at code
  | misused | unreadable | rejected | listed => rfl

theorem Ends.unchanged_of_names (ends : Ends words standardInput tree result after)
    (parsed : Arguments.parse words = some arguments) (names : arguments.command = .names) :
    after = tree := by
  cases ends with
  | written loads command turns success =>
      cases parsed.symm.trans loads.parse_eq
      rw [names] at command
      cases command
  | refused loads command turns failure =>
      cases parsed.symm.trans loads.parse_eq
      rw [names] at command
      cases command
  | misused | unreadable | rejected | listed => rfl

theorem Ends.output_of_names (ends : Ends words standardInput tree result after)
    (printed : (Outcome.of result).output ≠ "") :
    (Outcome.of result).exitCode = 0 ∧
      ∃ arguments, Arguments.parse words = some arguments ∧ arguments.command = .names := by
  cases ends with
  | listed loads command => exact ⟨rfl, _, loads.parse_eq, command⟩
  | misused | unreadable | rejected | written | refused => exact absurd rfl printed

theorem message_writing (report : Report Fault) (documents : List Document)
    (names : report.attempts.map (·.name) = documents.map (·.name)) :
    (Failure.writing ⟨report.attempted, report.failures⟩).message ++ "\n" =
      complaint documents report.attempts := by
  have attempted : report.attempted = documents.length := by
    simpa [report.attempted_eq_length] using congrArg List.length names
  have texts : report.failures.map (·.message Fault.message) =
      report.attempts.filterMap fun attempt =>
        attempt.refusal.map fun fault => attempt.name ++ ": " ++ fault.message := by
    simp [Report.failures, List.map_filterMap, WriteFailure.message, Function.comp_def]
  have count : report.failures.length =
      (report.failures.map (·.message Fault.message)).length := by
    rw [List.length_map]
  unfold Failure.message WriteFailures.message complaint
  dsimp only
  rw [attempted, count, texts]

theorem Ends.renders (ends : Ends words standardInput tree result after)
    (loads : Loads words standardInput tree arguments automaton)
    (render : arguments.command = .render) :
    ∃ attempts, Renders arguments automaton tree attempts after ∧
      attempts.map (·.name) = (automaton.documents arguments.options).map (·.name) ∧
      ((Outcome.of result).exitCode = 4 → (Outcome.of result).errors =
        complaint (automaton.documents arguments.options) attempts) := by
  rcases ends.of_loads loads with ⟨names, _⟩ | ⟨_, report, turns, ending⟩
  · rw [names] at render
    cases render
  · refine ⟨report.attempts, turns, turns.names_eq, ?_⟩
    intro code
    rcases ending with ⟨_, rfl⟩ | ⟨_, rfl⟩
    · simp [Outcome.of] at code
    · exact message_writing report _ turns.names_eq

theorem run_run (words : List String) (standardInput : ByteArray) (tree : FileTree) :
    (run (Host.onTree standardInput) words).run tree =
      (Outcome.of (TransitionNetwork.perform (execute (Host.onTree standardInput) words) tree).1,
        (TransitionNetwork.perform (execute (Host.onTree standardInput) words) tree).2) := by
  rfl

/-- Every run ends with one of four exit codes. Arguments that make no sense end it before anything
is read, an input that is no automaton ends it before anything is written, and a document that
cannot be written ends nothing. -/
theorem run_exitContract (words : List String) (standardInput : ByteArray) (tree : FileTree) :
    ExitContract words standardInput tree
      ((run (Host.onTree standardInput) words).run tree).1
      ((run (Host.onTree standardInput) words).run tree).2 := by
  have ends := ends_execute words standardInput tree
  rw [run_run]
  exact {
    exitCode_mem := ends.exitCode_mem
    usage_iff := ends.usage_iff
    input_iff := ends.input_iff
    writing_iff := ends.writing_iff
    unchanged := ends.unchanged
    unchanged_of_names := fun _ => ends.unchanged_of_names
    output_of_names := ends.output_of_names
    renders := fun _ _ => ends.renders }

end TransitionNetwork.CommandLine
