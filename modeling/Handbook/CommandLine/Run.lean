import Handbook.Assembly
import Handbook.CommandLine.Reading
import Handbook.Fetch.Client
import Handbook.StandardSite

/-! Running the program: a command line is read, and the page it asks for is rendered, or the server
it asks for is made ready. -/
namespace Handbook.CommandLine
open Fetch

/-- A failure as it is reported: what failed, during what, and what to try instead. -/
structure Report where
  message : String
  note : Option String
  suggestion : Option String
  deriving DecidableEq, Repr

/-- The report in lines. -/
def Report.text (report : Report) : String :=
  let line (label : String) (remark : Option String) : String :=
    (remark.map fun remark => label ++ ": " ++ remark ++ "\n").getD ""
  "Error: \n   0: " ++ report.message ++ "\n\n" ++ line "Note" report.note ++
    line "Suggestion" report.suggestion

/-- A server that is ready to listen. -/
structure Readiness where
  address : String
  root : String
  layout : Layout
  catalogue : Catalogue
  client : Client

/-- How a run ends. -/
inductive Ending where
  | shown (text : String)
  | bare (text : String)
  | misused (misuse : Misuse)
  | failed (report : Report)
  | broken
  | rendered (html : Markup)
  | ready (server : Readiness)

namespace Ending

/-- The exit code of the run. -/
def code : Ending → Nat
  | shown _ => 0
  | bare _ => 2
  | misused _ => 2
  | failed _ => 1
  | broken => 101
  | rendered _ => 0
  | ready _ => 0

/-- What the run writes as its result. -/
def output : Ending → String
  | shown text => text
  | rendered html => String.ofList html ++ "\n"
  | _ => ""

/-- What the run says beside its result. -/
def complaint : Ending → String
  | bare text => text
  | misused misuse =>
    "error: " ++ misuse.message ++ "\n\nFor more information, try '--help'.\n"
  | failed report => report.text
  | _ => ""

end Ending

/-- The highest port there is. -/
def lastPort : Nat := 65535

/-- Why nobody can listen at an address: it has no port, or none that is a number. -/
def addressFault? (address : String) : Option String :=
  let cs := address.toList
  let port := (cs.reverse.takeWhile (· != ':')).reverse
  if port.length = cs.length then some "invalid socket address"
  else
    match readNumber (lastPort + 1) (String.ofList port) with
    | .ok _ => none
    | .error _ => some "invalid port value"

/-- The layout that an invocation asks for. -/
def Invocation.layout (invocation : Invocation) : Layout :=
  ⟨.standard, invocation.linkStyle, invocation.ribbon⟩

/-- The client that an invocation asks for. -/
def Invocation.client (invocation : Invocation) : Client :=
  ⟨userAgent, invocation.timeout * 1000⟩

/-- How a run ends that has rendered a page: with its markup, or with what became of the fetch. -/
def Ending.ofRendering (page : Page) : Except Failure Markup → Ending
  | .ok html => .rendered html
  | .error (.error error) =>
    .failed ⟨error.message, some ("While fetching " ++ page.source), none⟩
  | .error .breakdown => .broken

/-- Renders a page of the site (`Command::Render`), with the addresses that are fetched for it. -/
def Invocation.render (invocation : Invocation) (page : String) (fragments : Fragments)
    (network : Network) : Ending × List String :=
  match (Catalogue.standard .standard).find? page with
  | none =>
    (.failed ⟨"Unknown page " ++ Text.quote page, none,
      some "Known pages are index, install and userguide"⟩, [])
  | some page =>
    let source := invocation.client.source network
    let (result, fetched) :=
      Fetching.outcome (invocation.layout.assemble page fragments source)
    (.ofRendering page result, fetched)

/-- Makes a server ready to listen (`Command::Serve`). -/
def Invocation.serve (invocation : Invocation) (address : String) : Ending :=
  match addressFault? address with
  | some fault => .failed ⟨fault, some ("While binding " ++ address), none⟩
  | none =>
    .ready ⟨address, invocation.root, invocation.layout, .standard .standard, invocation.client⟩

/-- Does what an invocation asks for, with the fragments that lie in its root. -/
def Invocation.perform (invocation : Invocation) (fragmentsAt : String → Fragments)
    (network : Network) : Ending × List String :=
  match invocation.task with
  | .serve address => (invocation.serve address, [])
  | .render page => invocation.render page (fragmentsAt invocation.root) network

/-- Answers a command line that asks for nothing, or wrongly. -/
def Stop.ending (rootGiven : Option String) : Stop → Ending
  | .help topic => .shown (helpText rootGiven topic)
  | .version => .shown versionText
  | .bare => .bare (helpText rootGiven none)
  | .misuse wrong => .misused wrong

/-- Runs the program (`main`) on a command line, with the root that the environment gives: how the run
ends, and the addresses that are fetched on the way. -/
def perform (rootGiven : Option String) (fragmentsAt : String → Fragments) (network : Network)
    (words : List String) : Ending × List String :=
  match readCommandLine rootGiven words with
  | .ok invocation => invocation.perform fragmentsAt network
  | .error stop => (stop.ending rootGiven, [])

/-- How a run on a command line ends. -/
def run (rootGiven : Option String) (fragmentsAt : String → Fragments) (network : Network)
    (words : List String) : Ending :=
  (perform rootGiven fragmentsAt network words).1

end Handbook.CommandLine
