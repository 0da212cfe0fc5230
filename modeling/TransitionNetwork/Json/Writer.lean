/-!
# Writing JSON

Values are written without blanks. A string is written with escapes only where they are needed.
-/

set_option autoImplicit false

namespace TransitionNetwork.Json

/-- Quotes, backslashes and controls are escaped; controls without a letter of their own by their
number. -/
def escapeChar (c : Char) : List Char :=
  match c with
  | '"' => ['\\', '"']
  | '\\' => ['\\', '\\']
  | '\x08' => ['\\', 'b']
  | '\t' => ['\\', 't']
  | '\n' => ['\\', 'n']
  | '\x0c' => ['\\', 'f']
  | '\r' => ['\\', 'r']
  | _ =>
    if c.toNat < 0x20 then
      ['\\', 'u', '0', '0', Nat.digitChar (c.toNat / 16), Nat.digitChar (c.toNat % 16)]
    else [c]

def writeString (text : String) : String :=
  "\"" ++ String.ofList (text.toList.flatMap escapeChar) ++ "\""

def writeInteger (value : Int) : String :=
  toString value

def writeBoolean (value : Bool) : String :=
  if value then "true" else "false"

def writeOptional {α : Type} (write : α → String) : Option α → String
  | none => "null"
  | some value => write value

def writeArray {α : Type} (write : α → String) (values : List α) : String :=
  "[" ++ ",".intercalate (values.map write) ++ "]"

/-- An object of fields that are already written. -/
def writeObject (fields : List (String × String)) : String :=
  "\x7b" ++ ",".intercalate (fields.map fun (name, value) => writeString name ++ ":" ++ value) ++
    "\x7d"

end TransitionNetwork.Json
