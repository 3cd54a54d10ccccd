import LoginRehearsal.Certificate.File
import LoginRehearsal.Text.Split

/-!
# File trees

Files in directories, for a machine that is not there. A path is walked name by name, and each name is looked
up in the directory reached so far: so a name behind a file, an empty one included, is a fault of its own.

* `FileTree.read`: the content of the file at a path, or why there is none.
-/
namespace LoginRehearsal

inductive FileNode where
  | directory
  | file (content : Bytes)
deriving DecidableEq, Repr

/-- Directories and files, each under the names that lead to it from the root. -/
structure FileTree where
  nodes : List (List String × FileNode)
  /-- The directory in which relative paths begin. -/
  home : List String

namespace FileTree

/-- The longest name in a path, in bytes. -/
def longestName : Nat := 255

/-- The longest path, in bytes. -/
def longestPath : Nat := 4095

/-- What is at a place. The root is always there. -/
def node? (t : FileTree) (place : List String) : Option FileNode :=
  if place.isEmpty then some .directory
  else (t.nodes.find? (·.1 == place)).map (·.2)

/-- The place that a name leads to. -/
def step (t : FileTree) (place : List String) (name : String) : Except SystemFault (List String) :=
  match t.node? place with
  | none => .error .notFound
  | some (.file _) => .error .notDirectory
  | some .directory =>
    if name.isEmpty || name == "." then .ok place
    else if name == ".." then .ok place.dropLast
    else if longestName < name.utf8ByteSize then .error .nameTooLong
    else if (t.node? (place ++ [name])).isSome then .ok (place ++ [name])
    else .error .notFound

/-- The place at the end of a path. -/
def place (t : FileTree) (path : String) : Except SystemFault (List String) :=
  let names := (splitOn (· == '/') path.toList).map String.ofList
  names.foldlM t.step (if path.toList.head? == some '/' then [] else t.home)

/-- The content of the file at a path. -/
def read (t : FileTree) (path : String) : Except SystemFault Bytes :=
  if path.toList.contains '\x00' then .error .nulInName
  else if path.isEmpty then .error .notFound
  else if longestPath < path.utf8ByteSize then .error .nameTooLong
  else do
    match t.node? (← t.place path) with
    | some (.file content) => .ok content
    | some .directory => .error .isDirectory
    | none => .error .notFound

end FileTree
end LoginRehearsal
