import Retention.Host.Path
import Retention.Host.Storage

/-!
A tree of files held in memory. Paths are walked name by name, an absolute one from the root and any
other from the working directory, and every name but the last has to lead to a directory.
-/
namespace Retention

/-- The names that lead to a node from the root. -/
abbrev Place := List FileName

/-- Nodes by their places. A directory also stands wherever a longer place goes through. -/
structure FileTree where
  nodes : List (Place × FileNode)
  /-- The files that can be started. -/
  programs : List Place
  workingDirectory : Place
  /-- The directories in which a program is looked for whose path has no slash. -/
  searchPath : List Path

namespace FileTree

def node? (tree : FileTree) (place : Place) : Option FileNode :=
  match tree.nodes.lookup place with
  | some node => some node
  | none =>
    if (tree.workingDirectory :: tree.nodes.map (·.1)).any place.isPrefixOf then some .directory
    else none

/-- The longest name of a file, in bytes. -/
def nameLimit : Nat := 255

/-- Goes on from a place by one name. The root lies in itself. -/
def enter (tree : FileTree) (place : Place) (name : FileName) : Except StorageError Place :=
  match tree.node? place with
  | none => .error .absent
  | some (.file _) => .error .notDirectory
  | some .directory =>
    if name.isEmpty || name == Path.here then .ok place
    else if name == Path.above then .ok place.dropLast
    else if name.length > nameLimit then .error .tooLong
    else .ok (place ++ [name])

/-- The longest path, in bytes. -/
def pathLimit : Nat := 4095

/-- Where the walk along a path begins. -/
def start (tree : FileTree) (path : Path) : Except StorageError Place :=
  if path.bytes.length > pathLimit then .error .tooLong
  else if path.bytes.isEmpty then .error .absent
  else .ok (if path.isAbsolute then [] else tree.workingDirectory)

/-- The place that a path leads to, at which nothing need be. -/
def place (tree : FileTree) (path : Path) : Except StorageError Place := do
  path.names.foldlM tree.enter (← tree.start path)

/-- The place that a path leads to, and what is there. -/
def find (tree : FileTree) (path : Path) : Except StorageError (Place × FileNode) := do
  let place ← tree.place path
  match tree.node? place with
  | some node => return (place, node)
  | none => throw .absent

def look (tree : FileTree) (path : Path) : Except StorageError FileNode :=
  (tree.find path).map (·.2)

/-- Puts a node at a place, instead of the one that was there. -/
def insert (tree : FileTree) (place : Place) (node : FileNode) : FileTree :=
  { tree with nodes := tree.nodes.filter (·.1 ≠ place) ++ [(place, node)] }

/-- Goes on from a place by one name, after making a directory there if nothing is. -/
def enterMaking (walk : FileTree × Place) (name : FileName) :
    Except StorageError (FileTree × Place) := do
  let place ← walk.1.enter walk.2 name
  match walk.1.node? place with
  | some _ => return (walk.1, place)
  | none => return (walk.1.insert place .directory, place)

/-- Makes a directory and those it lies in, where they are missing. An empty path asks for none. -/
def makeDirectory (tree : FileTree) (path : Path) : Except StorageError FileTree := do
  if path.bytes.isEmpty then return tree
  let (tree, place) ← path.names.foldlM enterMaking (tree, ← tree.start path)
  match tree.node? place with
  | some (.file _) => throw .exists
  | _ => return tree

/-- Writes a file anew. The directory that it lies in has to be there. -/
def write (tree : FileTree) (path : Path) (content : List UInt8) : Except StorageError FileTree := do
  let place ← tree.place path
  match tree.node? place with
  | some .directory => throw .isDirectory
  | _ => return tree.insert place (.file content)

/-- The names and the contents of the files that lie in a directory. -/
def filesIn (tree : FileTree) (place : Place) : List (FileName × List UInt8) :=
  tree.nodes.filterMap fun entry =>
    match entry.1.getLast?, entry.2 with
    | some name, .file content => if entry.1.dropLast = place then some (name, content) else none
    | _, _ => none

/-- The place of the program at a path. -/
def programAt (tree : FileTree) (path : Path) : Except StorageError Place := do
  let (place, _) ← tree.find path
  if tree.programs.contains place then return place else throw .denied

/-- Whether a search for a program goes on after a failure. -/
def passesOver (failure : StorageError) : Bool :=
  failure = .absent || failure = .denied || failure = .notDirectory

/-- The first program at one of some paths. Where all are passed over, the failure is the last one,
unless something was found that cannot be started. -/
def firstProgram (tree : FileTree) (failure : StorageError) : List Path → Except StorageError Place
  | [] => .error failure
  | path :: paths =>
    match tree.programAt path with
    | .ok place => .ok place
    | .error cause =>
      if passesOver cause then
        tree.firstProgram (if failure = .denied then .denied else cause) paths
      else .error cause

/-- The place of a program that is to be started. -/
def program (tree : FileTree) (path : Path) : Except StorageError Place :=
  tree.firstProgram .absent <|
    if path.bytes.contains Path.slash then [path] else tree.searchPath.map (·.join path)

end FileTree
end Retention
