import TransitionNetwork.Files
import TransitionNetwork.OrderedMap

/-!
# File trees

A file system as a value: files and directories below one top directory, which is there always.
There are no links, no permissions and no limits of space. Relative and absolute paths start at
the top.
-/

set_option autoImplicit false

namespace TransitionNetwork

inductive Entry where
  | file (bytes : ByteArray)
  | directory

instance : DecidableEq Entry
  | .file bytes, .file others =>
    decidable_of_iff (bytes.data = others.data) (by rw [Entry.file.injEq, ByteArray.ext_iff])
  | .directory, .directory => .isTrue rfl
  | .file _, .directory | .directory, .file _ => .isFalse nofun

/-- A place is given by the names that lead to it from the top. -/
abbrev Place := List String

/-- Paths of more bytes than the limit cannot be used; a tree need not have one. -/
structure FileTree where
  entries : OrderedMap Place Entry := {}
  pathLimit : Option Nat := some 4095
  deriving DecidableEq

namespace FileTree

/-- Names of more bytes than this cannot be used. -/
def longestName : Nat :=
  255

def entry? (tree : FileTree) : Place → Option Entry
  | [] => some .directory
  | place => tree.entries.get? place

def put (tree : FileTree) (place : Place) (entry : Entry) : FileTree :=
  { tree with entries := tree.entries.insert place entry }

@[simp] theorem entry?_top (tree : FileTree) : tree.entry? [] = some .directory := rfl

@[simp] theorem pathLimit_put (tree : FileTree) (place : Place) (entry : Entry) :
    (tree.put place entry).pathLimit = tree.pathLimit := rfl

theorem entry?_eq_get? (tree : FileTree) {place : Place} (below : place ≠ []) :
    tree.entry? place = tree.entries.get? place := by
  obtain ⟨name, names, rfl⟩ := List.exists_cons_of_ne_nil below
  rfl

theorem entry?_put (tree : FileTree) {place : Place} (below : place ≠ []) (entry : Entry)
    (other : Place) :
    FileTree.entry? (tree.put place entry) other =
      if other = place then some entry else tree.entry? other := by
  by_cases top : other = []
  · rw [top, if_neg below.symm]
    rfl
  · rw [entry?_eq_get? _ top, entry?_eq_get? _ top]
    exact OrderedMap.get?_insert tree.entries place other entry

/-- Puts an entry at a place and a directory at every place above it. -/
def putNested (tree : FileTree) (place : Place) (entry : Entry) : FileTree :=
  let above := (List.range place.length).tail.map place.take
  (above.foldl (fun tree place => tree.put place .directory) tree).put place entry

/-- Follows names from a place. All places passed on the way have to be directories; the last one
need not be there. -/
def follow (tree : FileTree) (place : Place) : List String → Except Fault Place
  | [] => .ok place
  | name :: rest =>
    match tree.entry? place with
    | none => .error .notFound
    | some (.file _) => .error .notDirectory
    | some .directory =>
      if name = "." then tree.follow place rest
      else if name = ".." then tree.follow place.dropLast rest
      else if longestName < name.utf8ByteSize then .error .nameTooLong
      else tree.follow (place ++ [name]) rest

/-- Refuses paths for what they are, whatever is in the tree. -/
def checkPath (tree : FileTree) (path : String) : Except Fault Unit :=
  if '\x00' ∈ path.toList then .error .containsNul
  else if path = "" then .error .notFound
  else if tree.pathLimit.any (· < path.utf8ByteSize) then .error .nameTooLong
  else .ok ()

/-- The place that a path leads to. -/
def locate (tree : FileTree) (path : String) : Except Fault Place := do
  tree.checkPath path
  tree.follow [] (Path.parts path)

def isDirectory (tree : FileTree) (path : String) : Bool :=
  match tree.entry? <$> tree.locate path with
  | .ok (some .directory) => true
  | _ => false

def makeDirectory (tree : FileTree) (path : String) : Except Fault FileTree := do
  let place ← tree.locate path
  match tree.entry? place with
  | some _ => throw .alreadyExists
  | none => return tree.put place .directory

/-- A path that ends in a slash names a directory, so it is refused as soon as everything before
its last name is found. -/
def writeFile (tree : FileTree) (path : String) (bytes : ByteArray) : Except Fault FileTree := do
  if Path.endsInSlash path then
    tree.checkPath path
    let _ ← tree.follow [] ((Path.parts path).dropLast ++ ["."])
    throw .isDirectory
  let place ← tree.locate path
  match tree.entry? place with
  | some .directory => throw .isDirectory
  | _ => return tree.put place (.file bytes)

def readFile (tree : FileTree) (path : String) : Except Fault ByteArray := do
  let place ← tree.locate path
  match tree.entry? place with
  | none => throw .notFound
  | some .directory => throw .isDirectory
  | some (.file bytes) => if Path.endsInSlash path then throw .notDirectory else return bytes

/-- A change of the tree, which stays as it is if the change fails. -/
def change (f : FileTree → Except Fault FileTree) : ExceptT Fault (StateM FileTree) Unit := do
  match f (← get) with
  | .ok tree => set tree
  | .error fault => throw fault

/-- The file system whose state is a tree. -/
def fileSystem : FileSystem (StateM FileTree) where
  makeDirectory path := change (·.makeDirectory path)
  isDirectory path := return (← get).isDirectory path
  writeFile path bytes := change (·.writeFile path bytes)
  readFile path := do
    match (← get).readFile path with
    | .ok bytes => pure bytes
    | .error fault => throw fault

end FileTree

end TransitionNetwork
