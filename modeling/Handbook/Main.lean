import Handbook.CommandLine.Run

/-! The program. It takes its words and its root from outside, reads the fragments below the root,
and writes down how the run ends. No host is within its reach and it does not listen, so documents
stay unfetched and a server stays ready. -/
namespace Handbook.CommandLine

/-- The markup in a file below a directory; what cannot be read as text is empty. -/
def readMarkup (directory name : String) : IO Markup := do
  let path : String := directory ++ "/" ++ name
  match ← (IO.FS.readFile path).toBaseIO with
  | .ok text => return text.toList
  | .error _ => return []

/-- The fragments below a directory. -/
def readFragments (directory : String) : IO Fragments := do
  return ⟨← readMarkup directory headerFile, ← readMarkup directory footerFile⟩

/-- Writes down how a run ends. -/
def Ending.write (ending : Ending) : IO Unit := do
  IO.print ending.output
  IO.eprint ending.complaint

end Handbook.CommandLine

open Handbook CommandLine in
/-- Runs the program. -/
def main (words : List String) : IO UInt32 := do
  let rootGiven ← IO.getEnv rootVariable
  let fragments ←
    match readCommandLine rootGiven words with
    | .ok invocation => readFragments invocation.root
    | .error _ => pure Fragments.none
  let ending := run rootGiven (fun _ => fragments) .unreachable words
  ending.write
  return UInt32.ofNat ending.code
