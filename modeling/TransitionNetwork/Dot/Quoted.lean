/-!
# Quoted text

A quoted text stands between two double quotes. Inside it a backslash takes the next character
with it, so the text ends at the first double quote that no backslash has taken.
-/

set_option autoImplicit false

namespace TransitionNetwork.Dot

def escapeChar : Char → List Char
  | '"' => ['\\', '"']
  | '\\' => ['\\', '\\']
  | '\n' => ['\\', 'n']
  | other => [other]

def escapeChars (text : List Char) : List Char :=
  text.flatMap escapeChar

/-- The body of a quoted text, without its quotes. -/
def escape (text : String) : String :=
  String.ofList (escapeChars text.toList)

def quote (text : String) : String :=
  "\"" ++ escape text ++ "\""

/-! ## Rewriting -/

def needsEscape (c : Char) : Bool :=
  ['"', '\\', '\n'].contains c

/-- Puts a character behind the part of the body that is written so far. -/
def pushEscaped (body : String) : Char → String
  | '"' => body ++ "\\\""
  | '\\' => body ++ "\\\\"
  | '\n' => body ++ "\\n"
  | other => body.push other

def rewritten (text : String) : String :=
  text.toList.foldl pushEscaped ""

/-- Rewrites a text only where it has to. -/
def keptOrRewritten (text : String) : String :=
  if text.toList.any needsEscape then rewritten text else text

/-! ## Reading -/

/-- Reads a quoted text whose opening quote is behind: its body as written, and what follows the
closing quote. -/
def scanBody : List Char → Option (List Char × List Char)
  | [] => none
  | '"' :: rest => some ([], rest)
  | ['\\'] => none
  | '\\' :: taken :: rest =>
    (scanBody rest).map fun (body, after) => ('\\' :: taken :: body, after)
  | other :: rest =>
    (scanBody rest).map fun (body, after) => (other :: body, after)

/-- The text that a body denotes. A backslash before a character that needs none is kept. -/
def unescapeChars : List Char → List Char
  | '\\' :: '"' :: rest => '"' :: unescapeChars rest
  | '\\' :: '\\' :: rest => '\\' :: unescapeChars rest
  | '\\' :: 'n' :: rest => '\n' :: unescapeChars rest
  | other :: rest => other :: unescapeChars rest
  | [] => []

end TransitionNetwork.Dot
