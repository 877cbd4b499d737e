import Handbook.Http.Uri
import Handbook.Text.Utf8

/-! Requests and responses. -/
namespace Handbook.Http
open Text

/-- What a request asks to be done with its address. Only two methods have a meaning here. -/
inductive Method where
  | get
  | head
  | other (name : String)
  deriving DecidableEq, Repr

/-- The method with a name. Names keep their case. -/
def Method.ofName (name : String) : Method :=
  if name = "GET" then .get else if name = "HEAD" then .head else .other name

/-- A request: a method on an address. Its headers are left out, so nobody asks for a part of a file or
only for a file that has changed. -/
structure Request where
  method : Method
  uri : Uri
  deriving DecidableEq, Repr

/-- The headers that a response may carry. -/
inductive Header where
  | acceptRanges
  | allow
  | contentLength
  | contentType
  | location
  deriving DecidableEq, Repr

/-- The name of a header. -/
def Header.name : Header → String
  | .acceptRanges => "accept-ranges"
  | .allow => "allow"
  | .contentLength => "content-length"
  | .contentType => "content-type"
  | .location => "location"

/-- A response: status, headers and body. -/
structure Response where
  status : Nat
  headers : List (Header × String)
  body : Bytes
  deriving DecidableEq, Repr

namespace Response

/-- A response without headers and without a body. -/
def bare (status : Nat) : Response := ⟨status, [], []⟩

/-- A response with nothing in it, which says so. -/
def blank (status : Nat) (headers : List (Header × String)) : Response :=
  ⟨status, headers ++ [(.contentLength, "0")], []⟩

/-- A response with a text. -/
def text (status : Nat) (mediaType : String) (content : List Char) : Response :=
  let bytes := encodeUtf8 content
  ⟨status, [(.contentType, mediaType), (.contentLength, toString bytes.length)], bytes⟩

/-- The same response without its body, which leaves the headers as they are. -/
def withoutBody (response : Response) : Response := { response with body := [] }

/-- The response as the method wants it. -/
def forMethod (response : Response) : Method → Response
  | .head => response.withoutBody
  | _ => response

end Response

/-- The methods that are answered everywhere, as a refusal lists them. -/
def allowedMethods : String := "GET,HEAD"

end Handbook.Http
