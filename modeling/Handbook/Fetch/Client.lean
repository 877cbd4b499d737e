import Handbook.Fetch.Network
import Handbook.Http.Message
import Handbook.Source

/-! Fetching documents over a network. A client asks once, follows at most ten redirects, and judges
the first answer that is none; the report names the address it was asked for, wherever the redirects
led. -/
namespace Handbook.Fetch
open Text

/-- A request as it was sent. -/
structure Sent where
  method : Http.Method
  target : List Char
  agent : String
  deriving DecidableEq, Repr

/-- A client (`HttpMarkdownSource`), and how many milliseconds it waits for a document. -/
structure Client where
  agent : String
  timeout : Nat
  deriving DecidableEq, Repr

/-- How many redirects are followed. -/
def redirectLimit : Nat := 10

/-- How many milliseconds the clock can count: its seconds fit 63 bits. -/
def clockLimit : Nat := UInt64.size / 2 * 1000

/-- What a client learns from an answer that is no redirect. -/
def Answer.document (answer : Answer) (url : String) : Except FetchError String :=
  if 200 ≤ answer.status ∧ answer.status < 300 then
    match answer.delivery with
    | .complete => .ok (String.ofList (decodeUtf8Lossy answer.body))
    | _ => .error (.body url)
  else .error (.status url answer.status)

namespace Client

/-- The request that the client sends to an address. -/
def sent (client : Client) (network : Network) (address : network.Address) : Sent :=
  ⟨.get, network.target address, client.agent⟩

/-- Asks at an address and follows as many redirects as are left. The first answer that is none is
the result, and every request that was taken is listed. -/
def follow (client : Client) (network : Network) (left : Nat) (address : network.Address) :
    Option Answer × List Sent :=
  match network.contact address with
  | .refused => (none, [])
  | .silent => (none, [client.sent network address])
  | .answered answer =>
    match answer.next? network address, left with
    | none, _ => (some answer, [client.sent network address])
    | some (.web next), left + 1 =>
      let (result, later) := follow client network left next
      (result, client.sent network address :: later)
    | some _, _ => (none, [client.sent network address])

/-- Asks where a text leads to. Elsewhere nothing is asked. -/
def ask (client : Client) (network : Network) :
    Destination network.Address → Option Answer × List Sent
  | .web address => client.follow network redirectLimit address
  | .elsewhere => (none, [])

/-- Fetches a document (`fetch_markdown`), with the requests that were sent for it. The end of the
wait is set as soon as the address is read, whatever it is an address of; an end that the clock cannot
show breaks the fetch down. -/
def fetch (client : Client) (network : Network) (url : String) :
    Except Failure String × List Sent :=
  match network.read url with
  | none => (.error (.error (.request url)), [])
  | some destination =>
    if network.clock * 1000 + client.timeout < clockLimit then
      let (answer, sent) := client.ask network destination
      match answer with
      | some answer => ((answer.document url).mapError .error, sent)
      | none => (.error (.error (.request url)), sent)
    else (.error .breakdown, [])

/-- The source that fetches through the client. -/
def source (client : Client) (network : Network) : Source where
  answer url := (client.fetch network url).1

end Client

end Handbook.Fetch
