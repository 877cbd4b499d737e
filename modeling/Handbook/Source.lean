import Handbook.Markdown.Html
import Handbook.Markup

/-! Sources of documents. A fetch answers with a text, reports why there is none, or breaks down
without a report; whichever it is, the address stays on record. -/
namespace Handbook

/-- Why there is no document (`ContentFetchError`). -/
inductive FetchError where
  | client
  | request (url : String)
  | status (url : String) (code : Nat)
  | body (url : String)
  deriving DecidableEq, Repr

/-- The report in one line. -/
def FetchError.message : FetchError → String
  | .client => "failed to build HTTP client"
  | .request url => "request for " ++ url ++ " failed"
  | .status url code => url ++ " answered with status " ++ toString code
  | .body url => "failed to read body of " ++ url

/-- How a fetch ends without a text: with a report, or in a breakdown. -/
inductive Failure where
  | error (error : FetchError)
  | breakdown
  deriving DecidableEq, Repr

/-- Where documents come from (`ContentSource`). A source is what it answers to `fetch_markdown`. One
that writes HTML in a way of its own, in place of the provided `fetch_rendered`, is not expressed. -/
structure Source where
  answer : String → Except Failure String

/-- Work that may fetch. The addresses fetched so far are kept, also when the work fails. -/
abbrev Fetching := ExceptT Failure (StateM (List String))

/-- The result of the work, and the addresses that it fetched in this order. -/
def Fetching.outcome (work : Fetching α) : Except Failure α × List String :=
  (StateT.run (ExceptT.run work) []).run

namespace Source

/-- Fetches a document, and keeps its address on record. -/
def fetch (source : Source) (url : String) : Fetching String :=
  ExceptT.mk do
    modify (· ++ [url])
    return source.answer url

/-- Fetches a document and writes it as HTML (`fetch_rendered`). -/
def fetchHtml (source : Source) (url : String) : Fetching Markup := do
  return Markdown.renderChars (← source.fetch url).toList

end Source

/-- Documents by their addresses; a later entry of one address is never looked at. -/
structure Documents where
  shelf : List (String × Except Failure String)

namespace Documents

/-- Puts a document, or the failure of its fetch, at an address. -/
def put (documents : Documents) (url : String) (answer : Except Failure String) : Documents :=
  ⟨(url, answer) :: documents.shelf⟩

/-- The source that answers from the documents. Any other address is not found. -/
def source (documents : Documents) : Source where
  answer url := (documents.shelf.lookup url).getD (.error (.error (.status url 404)))

end Documents

end Handbook
