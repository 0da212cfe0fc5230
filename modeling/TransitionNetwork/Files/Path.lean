/-!
# Paths

A path is written as text; slashes part its names. Several slashes count as one, and a path that
begins with a slash is absolute.
-/

set_option autoImplicit false

namespace TransitionNetwork.Path

/-- What stands before, between and after the slashes; any of it may be empty. -/
def splitAtSlashes : List Char → List (List Char)
  | [] => [[]]
  | '/' :: rest => [] :: splitAtSlashes rest
  | c :: rest =>
    match splitAtSlashes rest with
    | [] => [[c]]
    | first :: others => (c :: first) :: others

/-- The names in a path, `.` and `..` among them. -/
def parts (path : String) : List String :=
  ((splitAtSlashes path.toList).filter (· ≠ [])).map String.ofList

def isAbsolute (path : String) : Bool :=
  path.toList.head? == some '/'

def endsInSlash (path : String) : Bool :=
  path.toList.getLast? == some '/'

def ofParts (absolute : Bool) (parts : List String) : String :=
  (if absolute then "/" else "") ++ "/".intercalate parts

/-- An absolute name stands for itself, any other for a place below the root. -/
def join (root name : String) : String :=
  if isAbsolute name || root = "" then name
  else if endsInSlash root then root ++ name
  else root ++ "/" ++ name

/-- Leading names that end in `.` stand for the place of a shorter list, unless there is none. -/
def isOwnPlace (absolute : Bool) (names : List String) : Bool :=
  names.getLast? != some "." || (!absolute && names == ["."])

/-- The path itself, as it is written, and the directories above it, nearest first. The top that
everything lies below is left out. -/
def ancestors (path : String) : List String :=
  let absolute := isAbsolute path
  let names := parts path
  let leading := (List.range names.length).reverse.map fun count => names.take (count + 1)
  match leading.filter (isOwnPlace absolute) with
  | [] => []
  | _ :: above => path :: above.map (ofParts absolute)

end TransitionNetwork.Path
