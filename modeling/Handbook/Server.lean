import Handbook.Assembly
import Handbook.Http.Route
import Handbook.StaticFiles

/-! The server. Every page has a route under its file name, and the index is the root as well; what
no route matches is looked up among the files. A page is assembled anew for every request. -/
namespace Handbook
open Http Text

/-- What a server publishes: its pages, and the layout around them. With a root and a source this is the
whole of an `AppState`, and nothing in it changes. -/
structure Site where
  layout : Layout
  catalogue : Catalogue

/-- A path, and the name of the page that is found there. -/
structure Route where
  path : List Char
  name : PageName
  deriving DecidableEq

/-- The page that is found at the root as well. -/
def rootStem : String := "index"

/-- The route that a path takes. Paths are compared as they are written. -/
def routeAt? (routes : List Route) (path : List Char) : Option Route :=
  routes.find? fun route => route.path == path

/-- Adds a route to a page under a written segment. A segment that reads as a capture is refused,
and so is a path that another route has. -/
def addRoute? (name : PageName) (segment : List Char) (routes : List Route) :
    Option (List Route) := do
  let path ← routePath? segment
  if (routeAt? routes path).isSome then none else return routes ++ [⟨path, name⟩]

/-- Adds the routes of a page: its file name, and the root for the index. -/
def addPage? (routes : List Route) (page : Page) : Option (List Route) := do
  let routes ← addRoute? page.name page.name.fileName.toList routes
  if page.name.stem == rootStem then addRoute? page.name [] routes else return routes

/-- The routes of all pages, laid one page after the other (`router`). -/
def Site.routes? (site : Site) : Option (List Route) :=
  site.catalogue.pages.foldlM addPage? []

/-- The response to the outcome of assembling a page. -/
def pageResponse : Except Failure Markup → Response
  | .ok html => .text 200 "text/html; charset=utf-8" html
  | .error (.error error) =>
    .text 502 "text/plain; charset=utf-8" ("Could not load page content: " ++ error.message).toList
  | .error .breakdown => .blank 500 []

/-- Looks a page up by its name and assembles it (`serve_page`), recording what is fetched. -/
def Site.page (site : Site) (files : FileTree) (source : Source) (name : PageName) :
    StateM (List String) Response :=
  match site.catalogue.find? name.text with
  | some page => do
    let html ← (site.layout.assemble page (Fragments.load files) source).run
    return pageResponse html
  | none => return .blank 404 []

/-- Answers a request that takes a route. Only reading is allowed. -/
def Site.pageAnswer (site : Site) (files : FileTree) (source : Source) (route : Route) :
    Method → StateM (List String) Response
  | .other _ => return .blank 405 [(.allow, allowedMethods)]
  | method => do return (← site.page files source route.name).forMethod method

/-- Answers a request: by the route that its path takes, or else from the files, to which `router` falls
back. -/
def Site.answer [MediaTypes] (site : Site) (routes : List Route) (files : FileTree)
    (source : Source) (request : Request) : StateM (List String) Response :=
  match routeAt? routes request.uri.path with
  | some route => site.pageAnswer files source route request.method
  | none => return fileAnswer files request

/-- The response to a request, and the addresses that were fetched for it. -/
def Site.respond [MediaTypes] (site : Site) (routes : List Route) (files : FileTree)
    (source : Source) (request : Request) : Response × List String :=
  (StateT.run (site.answer routes files source request) []).run

end Handbook
