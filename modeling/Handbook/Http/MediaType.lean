import Handbook.Text.CaseFold

/-! Media types of files, told by the ending of their names. -/
namespace Handbook.Http
open Text

/-- The media types that a server knows, by the endings of file names with their case folded. Which
they are is up to the library that serves the files; a site has no say in it. -/
class MediaTypes where
  ofEnding? : String → Option String

/-- The media type of bytes of which nothing is known. -/
def unknownMediaType : String := "application/octet-stream"

/-- What follows the last dot of a file name. A dot in front makes no ending. -/
def fileEnding? (name : List Char) : Option (List Char) :=
  let ending := (name.reverse.takeWhile (· != '.')).reverse
  if ending.length + 1 < name.length then some ending else none

/-- The media type of a file, whatever the case of its ending. -/
def mediaType [MediaTypes] (name : List Char) : String :=
  match fileEnding? name with
  | some ending => (MediaTypes.ofEnding? (String.ofList (caseFold ending))).getD unknownMediaType
  | none => unknownMediaType

end Handbook.Http
