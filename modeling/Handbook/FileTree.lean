import Handbook.Text.Utf8

/-! Trees of files, as they lie under the root of a site. A path is a list of names; the tree is
read and changed by following it from the root. -/
namespace Handbook
open Text

/-- A file with its bytes, or a directory with its entries. -/
inductive FileTree where
  | file (content : Bytes)
  | directory (entries : List (String × FileTree))

namespace FileTree

/-- A directory without entries. -/
def empty : FileTree := .directory []

/-- What lies at a path. -/
def find? : FileTree → List String → Option FileTree
  | tree, [] => some tree
  | .file _, _ :: _ => none
  | .directory entries, name :: rest =>
    match entries.lookup name with
    | some child => child.find? rest
    | none => none

/-- The bytes of the file at a path. -/
def read? (tree : FileTree) (path : List String) : Option Bytes :=
  match tree.find? path with
  | some (.file content) => some content
  | _ => none

/-- The entries with one of them set; a new one comes last. -/
def setEntry (name : String) (tree : FileTree) :
    List (String × FileTree) → List (String × FileTree)
  | [] => [(name, tree)]
  | (key, old) :: rest =>
    if key == name then (name, tree) :: rest else (key, old) :: setEntry name tree rest

/-- The tree with the file or directory at a path made or replaced, and the directories on the way
made where they are missing. A file stands in the way of everything below it, and a file and a
directory do not replace each other. A directory that is there already keeps its entries. -/
def write? (content : Option Bytes) : List String → Option FileTree → Option FileTree
  | [], none => some (match content with | some bytes => .file bytes | none => .empty)
  | [], some (.file _) => content.map .file
  | [], some (.directory entries) => if content.isNone then some (.directory entries) else none
  | _ :: _, some (.file _) => none
  | name :: rest, none => (write? content rest none).map fun child => .directory [(name, child)]
  | name :: rest, some (.directory entries) =>
    (write? content rest (entries.lookup name)).map fun child =>
      .directory (setEntry name child entries)

/-- The tree after a write. A write that the tree has no room for changes nothing. -/
def write (tree : FileTree) (path : List String) (content : Option Bytes) : FileTree :=
  (write? content path (some tree)).getD tree

/-- The tree without what lies at a path, if something lies there. The root stays. -/
def remove? : FileTree → List String → Option FileTree
  | _, [] => none
  | .file _, _ :: _ => none
  | .directory entries, [name] =>
    if (entries.lookup name).isSome then
      some (.directory (entries.filter fun entry => entry.1 != name))
    else none
  | .directory entries, name :: next :: rest =>
    match entries.lookup name with
    | some child =>
      (child.remove? (next :: rest)).map fun child => .directory (setEntry name child entries)
    | none => none

/-- What a path with `.` and `..` in it leads to, where `above` holds the directories passed on the
way, the nearest first. Nothing is known outside the tree. -/
def walk? (above : List FileTree) : FileTree → List String → Option FileTree
  | here, [] => some here
  | .file _, _ :: _ => none
  | .directory entries, step :: rest =>
    if step == "" || step == "." then walk? above (.directory entries) rest
    else if step == ".." then
      match above with
      | parent :: further => walk? further parent rest
      | [] => none
    else
      match entries.lookup step with
      | some child => walk? (.directory entries :: above) child rest
      | none => none

end FileTree

/-- The steps of a path: its parts between slashes. -/
def splitAtSlashes : List Char → List (List Char)
  | [] => [[]]
  | c :: cs =>
    if c == '/' then [] :: splitAtSlashes cs
    else
      match splitAtSlashes cs with
      | [] => [[c]]
      | part :: rest => (c :: part) :: rest

end Handbook
