import Handbook.Text.Utf8

/-! The network as a client meets it. A host takes a request or does not, and answers in time or does
not. How the text of an address and the location of a redirect are read belongs to the network as
well: a client asks the library that it uses, and follows where that leads. -/
namespace Handbook.Fetch
open Text

/-- Where a text leads: to an address at which a request can be made, or elsewhere, as a text of another
scheme does. -/
inductive Destination (Address : Type) where
  | web (address : Address)
  | elsewhere

/-- How a body arrives. -/
inductive Delivery where
  | complete
  | short
  | stalled
  deriving DecidableEq, Repr

/-- The answer of a host, with the location that it names as it was sent. -/
structure Answer where
  status : Nat
  location : Option Bytes
  body : Bytes
  delivery : Delivery
  deriving DecidableEq, Repr

/-- What becomes of a request: nobody takes it, nothing comes back in time, or it is answered. -/
inductive Contact where
  | refused
  | silent
  | answered (answer : Answer)
  deriving DecidableEq, Repr

/-- What can be reached, and by which addresses. -/
structure Network where
  /-- An address that has been read. -/
  Address : Type
  /-- Reads the text of an address (`IntoUrl::into_url`), which has to name a host. -/
  read : String → Option (Destination Address)
  /-- Reads the location of a redirect that was met at an address. -/
  join : Address → Bytes → Option (Destination Address)
  /-- What stands in a request for an address. -/
  target : Address → List Char
  /-- What becomes of a request to an address. -/
  contact : Address → Contact
  /-- The seconds that the clock shows, which stands still while a document is fetched. -/
  clock : Nat

/-- A network in which nobody takes a request. Every text is an address of its own there. -/
def Network.unreachable : Network where
  Address := String
  read text := some (.web text)
  join _ _ := none
  target := String.toList
  contact _ := .refused
  clock := 0

/-- Whether an answer only says where the document is. -/
def Answer.isRedirect (answer : Answer) : Bool :=
  [301, 302, 303, 307, 308].contains answer.status

/-- Where an answer sends the client on to. A redirect without a readable location is an answer like
any other. -/
def Answer.next? (network : Network) (address : network.Address) (answer : Answer) :
    Option (Destination network.Address) :=
  if answer.isRedirect then answer.location.bind (network.join address) else none

end Handbook.Fetch
