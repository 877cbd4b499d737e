import Handbook.FileTree
import Handbook.Markup
import Handbook.Settings

/-! The fragments around the content, which the keeper of a site edits as files. They are read anew
for every page, and a fragment that cannot be read as text is empty. -/
namespace Handbook
open Text

/-- The markup above the menu and below the content. -/
structure Fragments where
  header : Markup
  footer : Markup
  deriving DecidableEq, Repr

namespace Fragments

/-- The text of one file under the root. -/
def read (root : FileTree) (name : String) : Markup :=
  match root.read? [name] with
  | some bytes => (decodeUtf8? bytes).getD []
  | none => []

/-- The fragments under the root (`Fragments::load`). -/
def load (root : FileTree) : Fragments := ⟨read root headerFile, read root footerFile⟩

/-- No fragments. -/
def none : Fragments := ⟨[], []⟩

/-- The fragments in a directory that is given by a path. A path that begins with a slash leads out
of the tree. -/
def loadAt (tree : FileTree) (path : String) : Fragments :=
  let steps := splitAtSlashes path.toList
  if 1 < steps.length ∧ steps.head? = some [] then none
  else ((tree.walk? [] (steps.map String.ofList)).map load).getD none

end Fragments

end Handbook
