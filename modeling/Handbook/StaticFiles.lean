import Handbook.FileTree
import Handbook.Http.MediaType
import Handbook.Http.Message
import Handbook.Text.Percent

/-! Files as the server hands them out. The path of a request is decoded once and followed from the
root; a path that would climb or start anew leads nowhere. A directory is answered with its index,
after a redirect to its name with a slash. -/
namespace Handbook
open Http Text

/-- The file that stands for its directory. -/
def indexFile : String := "index.html"

/-- The names to follow for a decoded path. Empty steps and single dots lead nowhere else; a step up
is refused. -/
def plainSteps? (path : List Char) : Option (List String) :=
  let steps := (splitAtSlashes path).filter fun step => !step.isEmpty && step != ['.']
  if steps.contains ['.', '.'] then none else some (steps.map String.ofList)

/-- The names to follow for the path of a request. Its first slashes are the root; behind them it
has to be valid text, and no second root may show up in it. -/
def requestSteps? (path : List Char) : Option (List String) :=
  match decodeUtf8? (percentDecode (encodeUtf8 (path.dropWhile (· == '/')))) with
  | some ('/' :: _) => none
  | some decoded => plainSteps? decoded
  | none => none

/-- The response with a file. -/
def fileResponse [MediaTypes] (steps : List String) (content : Bytes) : Response :=
  ⟨200, [(.contentType, mediaType (steps.getLastD "").toList), (.acceptRanges, "bytes"),
    (.contentLength, toString content.length)], content⟩

/-- The response that sends the client on to the name with a slash. -/
def redirectResponse (uri : Uri) : Response :=
  match uri.withSlash? with
  | some location => ⟨307, [(.location, String.ofList location)], []⟩
  | none => .bare 500

/-- The response to a request for a path that leads somewhere. -/
def foundResponse [MediaTypes] (uri : Uri) (steps : List String) : FileTree → Response
  | .file content => fileResponse steps content
  | .directory entries =>
    if uri.path.getLast? == some '/' then
      match entries.lookup indexFile with
      | some (.file content) => fileResponse [indexFile] content
      | _ => .bare 404
    else redirectResponse uri

/-- What the files under the root answer (`ServeDir`). Only reading is allowed. -/
def fileAnswer [MediaTypes] (root : FileTree) (request : Request) : Response :=
  match request.method with
  | .other _ => ⟨405, [(.allow, allowedMethods)], []⟩
  | method =>
    let response :=
      match requestSteps? request.uri.path with
      | some steps =>
        match root.find? steps with
        | some tree => foundResponse request.uri steps tree
        | none => .bare 404
      | none => .bare 404
    response.forMethod method

end Handbook
