import Handbook.Server

/-! Sessions: what happens to a site over time. Requests arrive while files and documents change,
and every request is answered from what is there at that moment. -/
namespace Handbook
open Http Text

/-- What a server reads from when it answers. -/
structure World where
  files : FileTree
  documents : Documents

/-- Something that happens. -/
inductive Step where
  | request (method : String) (uri : String)
  | write (path : String) (content : Option Bytes)
  | remove (path : String)
  | document (url : String) (answer : Except Failure String)

/-- What comes of it. -/
inductive Reply where
  | response (response : Response) (fetched : List String)
  | badUri
  | done
  | removed (existed : Bool)
  deriving DecidableEq, Repr

/-- The names along a written path. -/
def pathNames (path : String) : List String :=
  ((splitAtSlashes path.toList).filter fun name => !name.isEmpty && name != ['.']).map String.ofList

/-- Puts a file or a directory at a written path. -/
def World.write (world : World) (path : String) (content : Option Bytes) : World :=
  { world with files := world.files.write (pathNames path) content }

/-- Answers a request at a written address. There is no answer when the routes of the site cannot
be laid. -/
def Site.serve [MediaTypes] (site : Site) (world : World) (method uri : String) : Option Reply :=
  match Uri.parse? uri with
  | some uri => do
    let routes ← site.routes?
    let (response, fetched) :=
      site.respond routes world.files world.documents.source ⟨.ofName method, uri⟩
    return .response response fetched
  | none => some .badUri

/-- Lets one thing happen. -/
def Site.step [MediaTypes] (site : Site) (world : World) : Step → Option (World × Reply)
  | .request method uri => (site.serve world method uri).map fun reply => (world, reply)
  | .write path content => some (world.write path content, .done)
  | .remove path =>
    match world.files.remove? (pathNames path) with
    | some files => some ({ world with files }, .removed true)
    | none => some (world, .removed false)
  | .document url answer =>
    some ({ world with documents := world.documents.put url answer }, .done)

/-- Lets things happen one after the other. -/
def Site.run [MediaTypes] (site : Site) (world : World) : List Step → Option (List Reply)
  | [] => some []
  | step :: rest => do
    let (world, reply) ← site.step world step
    return reply :: (← site.run world rest)

end Handbook
