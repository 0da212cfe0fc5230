import TransitionNetwork.Document

/-!
# Command line arguments

Words are read from left to right. Of options that are given several times the last one counts; an
input can be given once only.
-/

set_option autoImplicit false

namespace TransitionNetwork.CommandLine

inductive Command where
  | render
  | names
  deriving DecidableEq

structure Arguments where
  command : Command := .render
  input : Option String := none
  directory : Option String := none
  title : Option String := none
  withoutFocused : Bool := false
  withoutFull : Bool := false
  withoutFlat : Bool := false
  deriving DecidableEq

/-- What a word means where no option is waiting for its value. -/
inductive Word where
  | command (command : Command)
  | withoutFocused
  | withoutFull
  | withoutFlat
  | directory
  | title
  | lastInput
  | input
  | unknown
  deriving DecidableEq

/-- A single dash is an input; any other word that begins with a dash has to be an option. -/
def Word.of (word : String) : Word :=
  if word = "render" then .command .render
  else if word = "names" then .command .names
  else if word = "--no-focused" then .withoutFocused
  else if word = "--no-full" then .withoutFull
  else if word = "--no-rules" then .withoutFlat
  else if word = "--out-dir" then .directory
  else if word = "--title" then .title
  else if word = "--" then .lastInput
  else if word.toList.head? = some '-' ∧ word ≠ "-" then .unknown
  else .input

namespace Arguments

def setInput (arguments : Arguments) (path : String) : Option Arguments :=
  match arguments.input with
  | none => some { arguments with input := some path }
  | some _ => none

/-- Takes words on top of what is given so far. -/
def extend (arguments : Arguments) : List String → Option Arguments
  | [] => some arguments
  | word :: rest =>
    match Word.of word, rest with
    | .command command, rest => { arguments with command }.extend rest
    | .withoutFocused, rest => { arguments with withoutFocused := true }.extend rest
    | .withoutFull, rest => { arguments with withoutFull := true }.extend rest
    | .withoutFlat, rest => { arguments with withoutFlat := true }.extend rest
    | .directory, path :: rest => { arguments with directory := some path }.extend rest
    | .directory, [] => none
    | .title, title :: rest => { arguments with title := some title }.extend rest
    | .title, [] => none
    | .lastInput, [] => some arguments
    | .lastInput, [path] => arguments.setInput path
    | .lastInput, _ => none
    | .input, rest =>
      match arguments.setInput word with
      | none => none
      | some arguments => arguments.extend rest
    | .unknown, _ => none

/-- The arguments that the words stand for, if they make sense. -/
def parse (words : List String) : Option Arguments :=
  extend {} words

/-- The documents that are wanted. -/
def options (arguments : Arguments) : Options where
  focused := !arguments.withoutFocused
  full := !arguments.withoutFull
  flat := !arguments.withoutFlat
  title := arguments.title.getD Document.defaultTitle

end Arguments

def usage : String :=
  "atnviz-cli\n" ++
  "\n" ++
  "USAGE:\n" ++
  "atnviz-cli [render] [--out-dir <dir>] [--title <text>] " ++
    "[--no-focused] [--no-full] [--no-rules] [<path>|-]\n" ++
  "atnviz-cli names [--no-focused] [--no-full] [--no-rules] [<path>|-]\n" ++
  "\n" ++
  "NOTES:\n" ++
  "- <path> is a JSON ATN snapshot; if omitted or '-', it is read from stdin.\n" ++
  "- render writes clusters_for_<rule>.dot, atn.dot and atn_<index>.dot " ++
    "into --out-dir (default: .).\n" ++
  "- names prints the document names render would write, one per line.\n" ++
  "- Set RUST_LOG (e.g. RUST_LOG=atnviz=debug) for diagnostics on stderr.\n"

end TransitionNetwork.CommandLine
