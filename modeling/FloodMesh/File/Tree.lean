/-
A tree of files and what can be done to it.

A place is the list of names that lead to it from the root. Every operation
finds its place by walking the path from the working directory or the root;
each directory on the way must exist. Failures are told apart as an operating
system tells them.
-/

import FloodMesh.Bytes
import FloodMesh.File.Path

namespace FloodMesh

inductive FileError
  | missing
  | exists
  | notDirectory
  | isDirectory
  | nameTooLong
  | nulByte
  /-- The device failed, in its own words. -/
  | device (report : String)
  deriving DecidableEq

def FileError.message : FileError → String
  | .missing => "No such file or directory (os error 2)"
  | .exists => "File exists (os error 17)"
  | .notDirectory => "Not a directory (os error 20)"
  | .isDirectory => "Is a directory (os error 21)"
  | .nameTooLong => "File name too long (os error 36)"
  | .nulByte => "file name contained an unexpected NUL byte"
  | .device report => report

abbrev Place := List String

inductive FileTree.Item
  | directory
  | file (content : Bytes)
  deriving DecidableEq

structure FileTree where
  items : List (Place × FileTree.Item) := []
  /-- Where relative paths start. -/
  home : Place := []

namespace FileTree

/-- What lies at a place; the root is always a directory. -/
def lookup (tree : FileTree) (place : Place) : Option Item :=
  if place = [] then some .directory else tree.items.lookup place

def isDirectoryAt (tree : FileTree) (place : Place) : Bool :=
  tree.lookup place = some .directory

def replace (place : Place) (item : Item) : List (Place × Item) → List (Place × Item)
  | [] => [(place, item)]
  | first :: rest =>
      if first.1 = place then (place, item) :: rest else first :: replace place item rest

def put (tree : FileTree) (place : Place) (item : Item) : FileTree :=
  { tree with items := replace place item tree.items }

def remove (tree : FileTree) (place : Place) : FileTree :=
  { tree with items := tree.items.filter fun item => item.1 ≠ place }

/-- Longest name in bytes that a directory can hold. -/
def longestName : Nat := 255

/-- Longest path in bytes. -/
def longestPath : Nat := 4095

/-- The place one name leads to. Only a directory leads on, so what is reached lies
in a directory that exists. -/
def descend (tree : FileTree) (place : Place) (name : String) : Except FileError Place :=
  match tree.lookup place with
  | none => .error .missing
  | some (.file _) => .error .notDirectory
  | some .directory =>
      if name = ".." then .ok place.dropLast
      else if longestName < name.utf8ByteSize then .error .nameTooLong
      else .ok (place ++ [name])

/-- Where the names of a path begin, if it can be walked at all. -/
def start (tree : FileTree) (path : Path) : Except FileError Place :=
  if path.text.toList.contains (Char.ofNat 0) then .error .nulByte
  else if path.isEmpty then .error .missing
  else if longestPath < path.text.utf8ByteSize then .error .nameTooLong
  else .ok (if path.isAbsolute then [] else tree.home)

/-- The place a path names. -/
def resolve (tree : FileTree) (path : Path) : Except FileError Place := do
  path.names.foldlM tree.descend (← tree.start path)

/-- The place that the last name of a path is looked for in. -/
def resolveAbove (tree : FileTree) (path : Path) : Except FileError Place := do
  path.names.dropLast.foldlM tree.descend (← tree.start path)

/-- The item a path names; a path that wants a directory finds nothing else. -/
def find (tree : FileTree) (path : Path) : Except FileError Item := do
  let place ← tree.resolve path
  match tree.lookup place with
  | none => .error .missing
  | some (.file content) =>
      if path.wantsDirectory then .error .notDirectory else .ok (.file content)
  | some .directory => .ok .directory

def has (tree : FileTree) (path : Path) : Bool := (tree.find path).isOk

def isDirectory (tree : FileTree) (path : Path) : Bool :=
  match tree.find path with
  | .ok .directory => true
  | _ => false

def read (tree : FileTree) (path : Path) : Except FileError Bytes := do
  match ← tree.find path with
  | .file content => .ok content
  | .directory => .error .isDirectory

/-- The place of a file that is to be written, and what it holds already. A slash at
the end is refused before the last name is looked for. -/
def writable (tree : FileTree) (path : Path) : Except FileError (Place × Option Bytes) := do
  if path.endsInDot then
    match tree.lookup (← tree.resolve path) with
    | none => .error .missing
    | some (.file _) => .error .notDirectory
    | some .directory => .error .isDirectory
  else if path.wantsDirectory then
    match tree.lookup (← tree.resolveAbove path) with
    | none => .error .missing
    | some (.file _) => .error .notDirectory
    | some .directory => .error .isDirectory
  else
    let place ← tree.resolve path
    match tree.lookup place with
    | none => .ok (place, none)
    | some (.file content) => .ok (place, some content)
    | some .directory => .error .isDirectory

def write (tree : FileTree) (path : Path) (content : Bytes) : Except FileError FileTree := do
  let (place, _) ← tree.writable path
  .ok (tree.put place (.file content))

/-- Opens a file to add to it. A missing file is made; what a file holds stays. -/
def openToAppend (tree : FileTree) (path : Path) : Except FileError FileTree := do
  let (place, present) ← tree.writable path
  .ok (tree.put place (.file (present.getD [])))

def append (tree : FileTree) (path : Path) (content : Bytes) : Except FileError FileTree := do
  let place ← tree.resolve path
  match ← tree.find path with
  | .directory => .error .isDirectory
  | .file present => .ok (tree.put place (.file (present ++ content)))

def makeDirectory (tree : FileTree) (path : Path) : Except FileError FileTree := do
  let place ← tree.resolve path
  match tree.lookup place with
  | some .directory => .error .exists
  | some (.file _) => .error (if path.endsInDot then .notDirectory else .exists)
  | none => if path.endsInDot then .error .missing else .ok (tree.put place .directory)

/-- Makes a directory and those above it that are missing. An existing
directory is no failure. -/
def makeDirectories (tree : FileTree) (path : Path) : Nat → Except FileError FileTree × FileTree
  | 0 => (.error .missing, tree)
  | allowance + 1 =>
      if path.isEmpty then (.ok tree, tree)
      else
        match tree.makeDirectory path with
        | .ok made => (.ok made, made)
        | .error .missing =>
            match path.parent? with
            | none => (.error .missing, tree)
            | some parent =>
                match makeDirectories tree parent allowance with
                | (.error error, partly) => (.error error, partly)
                | (.ok above, _) =>
                    match above.makeDirectory path with
                    | .ok made => (.ok made, made)
                    | .error error =>
                        if above.isDirectory path then (.ok above, above)
                        else (.error error, above)
        | .error error =>
            if tree.isDirectory path then (.ok tree, tree) else (.error error, tree)

/-- Moves a file to another path, over a file that is there. -/
def rename (tree : FileTree) (source target : Path) : Except FileError FileTree := do
  let sourcePlace ← tree.resolve source
  let targetPlace ← tree.resolve target
  match ← tree.find source with
  | .directory => .error .isDirectory
  | .file content =>
      if target.wantsDirectory then .error .notDirectory
      else if sourcePlace = targetPlace then .ok tree
      else if tree.isDirectoryAt targetPlace then .error .isDirectory
      else .ok ((tree.remove sourcePlace).put targetPlace (.file content))

/-- The names below a place, relative to it, directories with a slash behind,
in order of their text. -/
def listing (tree : FileTree) (below : Place) : List String :=
  let inside := tree.items.filterMap fun item =>
    if below.isPrefixOf item.1 ∧ below.length < item.1.length then
      let name := String.intercalate "/" (item.1.drop below.length)
      match item.2 with
      | .directory => some (name ++ "/")
      | .file _ => some name
    else none
  inside.mergeSort fun first second => decide (first ≤ second)

end FileTree

/-- One step of a job on files. -/
inductive FileStep
  | makeDirectories (path : Path)
  | write (path : Path) (content : Bytes)
  | openToAppend (path : Path)
  | append (path : Path) (content : Bytes)
  | rename (source target : Path)
  deriving DecidableEq

namespace FileStep

/-- A step that fails may leave the tree changed: directories that were made
above the one that could not be. -/
def run (step : FileStep) (tree : FileTree) : Except FileError Unit × FileTree :=
  let settled := fun (result : Except FileError FileTree) =>
    match result with
    | .ok changed => (Except.ok (), changed)
    | .error error => (Except.error error, tree)
  match step with
  | .makeDirectories path =>
      match tree.makeDirectories path (path.text.length + 1) with
      | (.ok made, _) => (.ok (), made)
      | (.error error, partly) => (.error error, partly)
  | .write path content => settled (tree.write path content)
  | .openToAppend path => settled (tree.openToAppend path)
  | .append path content => settled (tree.append path content)
  | .rename source target => settled (tree.rename source target)

/-- Runs steps in order up to the first that fails, which is told with its
cause. -/
def runAll : List FileStep → FileTree → Except (FileStep × FileError) Unit × FileTree
  | [], tree => (.ok (), tree)
  | step :: rest, tree =>
      match step.run tree with
      | (.ok (), later) => runAll rest later
      | (.error error, later) => (.error (step, error), later)

end FileStep

/-- Makes a file and the directories above it, as far as that is possible. -/
def FileTree.plant (tree : FileTree) (path : Path) (content : Bytes) :
    Except FileError Unit × FileTree :=
  let above := path.parent?.toList.map FileStep.makeDirectories
  let (result, planted) := FileStep.runAll (above ++ [.write path content]) tree
  (result.mapError (·.2), planted)

end FloodMesh
