import Handbook.Fetch.Client
import Mathlib.Data.List.Chain

/-! Exchanges with a network. Redirects lead from one address to the next, in circles if they have
to; a client takes a limited number of them and judges the first answer that sends it nowhere. What
it reports follows from that answer alone, and from its absence. -/
namespace Handbook.Exchanges
open Fetch Text

/-! ## Following redirects -/

/-- An answer sends on if it has one of the five statuses of a redirect and its location can be read
where it was met; that is where it sends to. -/
def SendsOn (network : Network) (address : network.Address) (answer : Answer)
    (destination : Destination network.Address) : Prop :=
  answer.status ∈ [301, 302, 303, 307, 308] ∧
    ∃ location, answer.location = some location ∧ network.join address location = some destination

/-- An address that answers with a redirect to another one. -/
def Redirects (network : Network) (address next : network.Address) : Prop :=
  ∃ answer, network.contact address = .answered answer ∧ SendsOn network address answer (.web next)

/-- So many redirects lead from one address to another. -/
inductive Leads (network : Network) : Nat → network.Address → network.Address → Prop where
  | here : Leads network 0 address address
  | on (sent : Redirects network address next) (further : Leads network n next last) :
      Leads network (n + 1) address last

/-- The answer that so many redirects lead to, which itself sends nowhere. -/
def Concludes (network : Network) (n : Nat) (address : network.Address) (answer : Answer) : Prop :=
  ∃ last, Leads network n address last ∧ network.contact last = .answered answer ∧
    ∀ destination, ¬SendsOn network last answer destination

/-- The ways in which no such answer is reached: somewhere within the limit nobody takes the
request, nothing comes back, or a redirect points out of the web, or the limit is used up and there
is another redirect. -/
inductive Lost (network : Network) (limit : Nat) (address : network.Address) : Prop where
  | refused (path : Leads network n address last) (within : n ≤ limit)
      (met : network.contact last = .refused)
  | silent (path : Leads network n address last) (within : n ≤ limit)
      (met : network.contact last = .silent)
  | outside (path : Leads network n address last) (within : n ≤ limit)
      (met : network.contact last = .answered answer)
      (sent : SendsOn network last answer .elsewhere)
  | endless (path : Leads network limit address last) (sent : Redirects network last next)

section
variable {network : Network} {address next last : network.Address}

/-- What a client reads off an answer is where it sends on to. -/
theorem next?_eq_some_iff {answer : Answer} :
    answer.next? network address = some destination ↔
      SendsOn network address answer destination := by
  by_cases redirect : answer.isRedirect
  · have status : answer.status ∈ [301, 302, 303, 307, 308] := List.contains_iff_mem.mp redirect
    rw [Answer.next?, if_pos redirect, Option.bind_eq_some_iff, SendsOn]
    exact (and_iff_right status).symm
  · have status : answer.status ∉ [301, 302, 303, 307, 308] :=
      fun member => redirect (List.contains_iff_mem.mpr member)
    rw [Answer.next?, if_neg redirect]
    exact ⟨fun nothing => absurd nothing.symm (Option.some_ne_none _), fun sent => absurd sent.1 status⟩

theorem next?_eq_none_iff {answer : Answer} : answer.next? network address = none ↔
    ∀ destination, ¬SendsOn network address answer destination := by
  simp only [Option.eq_none_iff_forall_ne_some, Ne, next?_eq_some_iff]

theorem Concludes.on (sent : Redirects network address next)
    (concludes : Concludes network n next answer) : Concludes network (n + 1) address answer := by
  obtain ⟨last, path, met, stays⟩ := concludes
  exact ⟨last, .on sent path, met, stays⟩

theorem Lost.on (sent : Redirects network address next) (lost : Lost network limit next) :
    Lost network (limit + 1) address := by
  cases lost with
  | refused path within met => exact .refused (.on sent path) (Nat.succ_le_succ within) met
  | silent path within met => exact .silent (.on sent path) (Nat.succ_le_succ within) met
  | outside path within met out => exact .outside (.on sent path) (Nat.succ_le_succ within) met out
  | endless path more => exact .endless (.on sent path) more

/-- The first request settles the exchange or is sent on, whatever the limit is. -/
theorem concludes_or_lost_or_redirects (network : Network) (limit : Nat)
    (address : network.Address) :
    (∃ answer, Concludes network 0 address answer) ∨ Lost network limit address ∨
      ∃ next, Redirects network address next := by
  cases met : network.contact address with
  | refused => exact .inr (.inl (.refused .here (Nat.zero_le _) met))
  | silent => exact .inr (.inl (.silent .here (Nat.zero_le _) met))
  | answered answer =>
    cases sent : answer.next? network address with
    | none => exact .inl ⟨answer, address, .here, met, next?_eq_none_iff.mp sent⟩
    | some destination =>
      have on := next?_eq_some_iff.mp sent
      cases destination with
      | web next => exact .inr (.inr ⟨next, answer, met, on⟩)
      | elsewhere => exact .inr (.inl (.outside .here (Nat.zero_le _) met on))

/-- From every address an answer is reached within the limit, or the way is lost. -/
theorem concludes_or_lost (network : Network) (limit : Nat) (address : network.Address) :
    (∃ n ≤ limit, ∃ answer, Concludes network n address answer) ∨ Lost network limit address := by
  induction limit generalizing address with
  | zero =>
    rcases concludes_or_lost_or_redirects network 0 address with ⟨answer, at0⟩ | lost | ⟨next, sent⟩
    · exact .inl ⟨0, Nat.le_refl _, answer, at0⟩
    · exact .inr lost
    · exact .inr (.endless .here sent)
  | succ limit ih =>
    rcases concludes_or_lost_or_redirects network (limit + 1) address with
      ⟨answer, at0⟩ | lost | ⟨next, sent⟩
    · exact .inl ⟨0, Nat.zero_le _, answer, at0⟩
    · exact .inr lost
    · rcases ih next with ⟨n, within, answer, concludes⟩ | lost
      · exact .inl ⟨n + 1, Nat.succ_le_succ within, answer, concludes.on sent⟩
      · exact .inr (lost.on sent)

/-! What one request comes to: it ends the way, with or without an answer, or it is sent on. -/

theorem follow_refused (client : Client) (met : network.contact address = .refused) (left : Nat) :
    client.follow network left address = (none, []) := by
  rw [Client.follow.eq_def]
  simp only [met]

theorem follow_silent (client : Client) (met : network.contact address = .silent) (left : Nat) :
    client.follow network left address = (none, [client.sent network address]) := by
  rw [Client.follow.eq_def]
  simp only [met]

theorem follow_stays (client : Client) (met : network.contact address = .answered answer)
    (stays : ∀ destination, ¬SendsOn network address answer destination) (left : Nat) :
    client.follow network left address = (some answer, [client.sent network address]) := by
  rw [Client.follow.eq_def]
  simp only [met, next?_eq_none_iff.mpr stays]

theorem follow_leaves (client : Client) (met : network.contact address = .answered answer)
    (sent : SendsOn network address answer .elsewhere) (left : Nat) :
    client.follow network left address = (none, [client.sent network address]) := by
  rw [Client.follow.eq_def]
  simp only [met, next?_eq_some_iff.mpr sent]

theorem follow_used_up (client : Client) (sent : Redirects network address next) :
    client.follow network 0 address = (none, [client.sent network address]) := by
  obtain ⟨answer, met, on⟩ := sent
  rw [Client.follow]
  simp only [met, next?_eq_some_iff.mpr on]

theorem follow_redirect (client : Client) (sent : Redirects network address next) (left : Nat) :
    client.follow network (left + 1) address =
      ((client.follow network left next).1,
        client.sent network address :: (client.follow network left next).2) := by
  obtain ⟨answer, met, on⟩ := sent
  rw [Client.follow]
  simp only [met, next?_eq_some_iff.mpr on]

/-- As long as the limit allows it, a client ends where the redirects lead. -/
theorem follow_leads (client : Client) (path : Leads network n address last) (within : n ≤ left) :
    (client.follow network left address).1 = (client.follow network (left - n) last).1 := by
  induction path generalizing left with
  | here => rfl
  | on sent further ih =>
    obtain ⟨left, rfl⟩ := Nat.exists_eq_add_of_le' (Nat.zero_lt_of_lt within)
    rw [follow_redirect client sent, ih (Nat.le_of_succ_le_succ within), Nat.add_sub_add_right]

theorem follow_of_concludes (client : Client) (concludes : Concludes network n address answer)
    (within : n ≤ left) : (client.follow network left address).1 = some answer := by
  obtain ⟨last, path, met, stays⟩ := concludes
  rw [follow_leads client path within, follow_stays client met stays]

theorem follow_of_lost (client : Client) (lost : Lost network left address) :
    (client.follow network left address).1 = none := by
  cases lost with
  | refused path within met => rw [follow_leads client path within, follow_refused client met]
  | silent path within met => rw [follow_leads client path within, follow_silent client met]
  | outside path within met out =>
    rw [follow_leads client path within, follow_leaves client met out]
  | endless path more =>
    rw [follow_leads client path (Nat.le_refl left), Nat.sub_self, follow_used_up client more]

/-- A client that follows redirects obtains exactly the answer that they lead to within the
limit. -/
theorem follow_eq_some_iff {client : Client} :
    (client.follow network left address).1 = some answer ↔
      ∃ n ≤ left, Concludes network n address answer := by
  constructor
  · intro obtained
    rcases concludes_or_lost network left address with ⟨n, within, other, concludes⟩ | lost
    · rw [follow_of_concludes client concludes within] at obtained
      cases obtained
      exact ⟨n, within, concludes⟩
    · rw [follow_of_lost client lost] at obtained
      cases obtained
  · rintro ⟨n, within, concludes⟩
    exact follow_of_concludes client concludes within

theorem follow_eq_none_iff {client : Client} :
    (client.follow network left address).1 = none ↔ Lost network left address := by
  constructor
  · intro nothing
    rcases concludes_or_lost network left address with ⟨n, within, answer, concludes⟩ | lost
    · rw [follow_of_concludes client concludes within] at nothing
      cases nothing
    · exact lost
  · exact follow_of_lost client

/-- A client sends one request at most, unless it is sent on while the limit allows it. -/
theorem follow_sent_cases (client : Client) (network : Network) (left : Nat)
    (address : network.Address) :
    (client.follow network left address).2 = [] ∨
    (client.follow network left address).2 = [client.sent network address] ∨
    0 < left ∧ ∃ next, Redirects network address next := by
  cases met : network.contact address with
  | refused => exact .inl (by rw [follow_refused client met])
  | silent => exact .inr (.inl (by rw [follow_silent client met]))
  | answered answer =>
    cases on : answer.next? network address with
    | none => exact .inr (.inl (by rw [follow_stays client met (next?_eq_none_iff.mp on)]))
    | some destination =>
      have sent := next?_eq_some_iff.mp on
      cases destination with
      | elsewhere => exact .inr (.inl (by rw [follow_leaves client met sent]))
      | web next =>
        cases left with
        | zero => exact .inr (.inl (by rw [follow_used_up client ⟨answer, met, sent⟩]))
        | succ left => exact .inr (.inr ⟨Nat.succ_pos left, next, answer, met, sent⟩)

/-- The requests of a client start where it was told to and go on where they are sent on to, and
there is one more of them at most than there may be redirects. -/
theorem follow_trail (client : Client) (network : Network) (left : Nat)
    (address : network.Address) :
    ∃ trail : List network.Address,
      (client.follow network left address).2 = trail.map (client.sent network) ∧
      trail.length ≤ left + 1 ∧ trail.IsChain (Redirects network) ∧
      ∀ first ∈ trail.head?, first = address := by
  induction left generalizing address with
  | zero =>
    rcases follow_sent_cases client network 0 address with nothing | once | ⟨more, _⟩
    · exact ⟨[], nothing, by simp⟩
    · exact ⟨[address], once, by simp⟩
    · exact absurd more (Nat.lt_irrefl 0)
  | succ left ih =>
    rcases follow_sent_cases client network (left + 1) address with
      nothing | once | ⟨_, next, sent⟩
    · exact ⟨[], nothing, by simp⟩
    · exact ⟨[address], once, by simp⟩
    · obtain ⟨trail, written, bound, chain, starts⟩ := ih next
      refine ⟨address :: trail, ?_, Nat.succ_le_succ bound, ?_, by simp⟩
      · rw [follow_redirect client sent, written, List.map_cons]
      · refine List.isChain_cons.mpr ⟨?_, chain⟩
        intro first member
        rw [starts first member]
        exact sent

end

/-! ## Fetching -/

/-- The answer that an exchange ends with: the address of the document leads to it over ten redirects
at most. -/
def Obtains (network : Network) (url : String) (answer : Answer) : Prop :=
  ∃ address, network.read url = some (.web address) ∧ ∃ n ≤ 10, Concludes network n address answer

/-- Whether the clock can show the end of a wait that begins now. -/
def Timely (client : Client) (network : Network) : Prop :=
  network.clock * 1000 + client.timeout < clockLimit

/-- An address with a host, but a wait that cannot be timed. -/
def Overdue (client : Client) (network : Network) (url : String) : Prop :=
  ¬Timely client network ∧ ∃ destination, network.read url = some destination

section
variable {client : Client} {network : Network} {url : String} {answer : Answer}

/-- Where nobody is asked nothing is obtained; otherwise it is what the redirects lead to. -/
theorem ask_eq_some_iff {destination : Destination network.Address} :
    (client.ask network destination).1 = some answer ↔
      ∃ address, destination = .web address ∧ ∃ n ≤ 10, Concludes network n address answer := by
  cases destination with
  | web address =>
    rw [Client.ask, follow_eq_some_iff]
    constructor
    · exact fun reached => ⟨address, rfl, reached⟩
    · rintro ⟨_, same, reached⟩
      cases same
      exact reached
  | elsewhere =>
    constructor
    · intro nothing
      cases nothing
    · rintro ⟨_, same, _⟩
      cases same

/-- What an exchange obtains is what a client finds at the end of the redirects, whichever client it
is. -/
theorem obtains_iff_ask (client : Client) (read : network.read url = some destination) :
    Obtains network url answer ↔ (client.ask network destination).1 = some answer := by
  rw [ask_eq_some_iff, Obtains, read]
  simp only [Option.some.injEq]

/-- An exchange ends with one answer only. -/
theorem obtains_unique (obtains : Obtains network url answer)
    (others : Obtains network url other) : answer = other := by
  obtain ⟨address, read, _⟩ := id obtains
  have client : Client := ⟨"", 0⟩
  rw [obtains_iff_ask client read] at obtains others
  exact Option.some.inj (obtains.symm.trans others)

/-- Why an exchange ends without an answer. -/
theorem not_obtains_iff : (∀ answer, ¬Obtains network url answer) ↔
    network.read url = none ∨ network.read url = some .elsewhere ∨
      ∃ address, network.read url = some (.web address) ∧ Lost network 10 address := by
  cases read : network.read url with
  | none => simp [Obtains, read]
  | some destination =>
    cases destination with
    | elsewhere => simp [Obtains, read]
    | web address =>
      have client : Client := ⟨"", 0⟩
      simp only [obtains_iff_ask client read, ← Option.eq_none_iff_forall_ne_some, Client.ask,
        follow_eq_none_iff, redirectLimit]
      simp

/-- The wait for an address with a host can be timed or it is overdue. -/
theorem timely_of_read (timed : ¬Overdue client network url)
    (read : network.read url = some destination) : Timely client network := by
  by_contra late
  exact timed ⟨late, destination, read⟩

theorem not_overdue_iff : ¬Overdue client network url ↔
    (network.read url).isNone ∨ Timely client network := by
  constructor
  · intro timed
    cases read : network.read url with
    | none => exact .inl rfl
    | some destination => exact .inr (timely_of_read timed read)
  · rintro (unreadable | timely) ⟨late, destination, read⟩
    · rw [read] at unreadable
      cases unreadable
    · exact late timely

theorem fetch_unreadable (unreadable : network.read url = none) (client : Client) :
    client.fetch network url = (.error (.error (.request url)), []) := by
  simp only [Client.fetch, unreadable]

theorem fetch_overdue (overdue : Overdue client network url) :
    client.fetch network url = (.error .breakdown, []) := by
  obtain ⟨late, destination, read⟩ := overdue
  simp only [Client.fetch, read]
  exact if_neg late

/-- A fetch that can be waited for asks where its address leads to, and judges what comes of it. -/
theorem fetch_timely (read : network.read url = some destination)
    (timely : Timely client network) : client.fetch network url =
      (match (client.ask network destination).1 with
        | some answer => (answer.document url).mapError .error
        | none => .error (.error (.request url)),
        (client.ask network destination).2) := by
  simp only [Client.fetch, read, if_pos (show _ < clockLimit from timely)]
  cases (client.ask network destination).1 with
  | none => rfl
  | some answer => rfl

/-- A fetch whose wait can be timed reports the request where there is no answer to judge, and
otherwise judges the one that there is. -/
theorem fetch_cases (timed : ¬Overdue client network url) :
    (∀ answer, ¬Obtains network url answer) ∧
      (client.fetch network url).1 = .error (.error (.request url)) ∨
    ∃ answer, Obtains network url answer ∧
      (client.fetch network url).1 = (answer.document url).mapError .error := by
  cases read : network.read url with
  | none =>
    have unanswered := not_obtains_iff.mpr (.inl read)
    exact .inl ⟨unanswered, by rw [fetch_unreadable read]⟩
  | some destination =>
    rw [fetch_timely read (timely_of_read timed read)]
    cases reached : (client.ask network destination).1 with
    | none =>
      refine .inl ⟨?_, rfl⟩
      intro answer obtains
      rw [obtains_iff_ask client read, reached] at obtains
      cases obtains
    | some answer => exact .inr ⟨answer, (obtains_iff_ask client read).mpr reached, rfl⟩

/-- Whether an answer brings a document at all. -/
def Succeeds (answer : Answer) : Prop := 200 ≤ answer.status ∧ answer.status < 300

instance (answer : Answer) : Decidable (Succeeds answer) := inferInstanceAs (Decidable (_ ∧ _))

theorem document_complete (succeeds : Succeeds answer) (complete : answer.delivery = .complete) :
    answer.document url = .ok (String.ofList (decodeUtf8Lossy answer.body)) := by
  rw [Answer.document, if_pos (show _ ∧ _ from succeeds), complete]

theorem document_broken (succeeds : Succeeds answer) (broken : answer.delivery ≠ .complete) :
    answer.document url = .error (.body url) := by
  rw [Answer.document, if_pos (show _ ∧ _ from succeeds)]
  cases delivered : answer.delivery with
  | complete => exact absurd delivered broken
  | short | stalled => rfl

/-- The status of an answer is judged before its body. -/
theorem document_rejected (fails : ¬Succeeds answer) :
    answer.document url = .error (.status url answer.status) :=
  if_neg fails

/-- What a fetch comes to says how its exchange went: each outcome is told exactly when it is the
case, and every report names the address that was asked for. -/
structure Classified (network : Network) (url : String) (outcome : Except Failure String) :
    Prop where
  /-- A text is the whole body of a successful answer. -/
  text : ∀ text, outcome = .ok text ↔ ∃ answer, Obtains network url answer ∧
    Succeeds answer ∧ answer.delivery = .complete ∧
    String.ofList (decodeUtf8Lossy answer.body) = text
  /-- A status is reported of every other answer, however its body arrives. -/
  status : ∀ named code, outcome = .error (.error (.status named code)) ↔
    url = named ∧ ∃ answer, Obtains network url answer ∧ ¬Succeeds answer ∧ answer.status = code
  /-- The body is reported when a successful answer breaks off. -/
  body : ∀ named, outcome = .error (.error (.body named)) ↔
    url = named ∧ ∃ answer, Obtains network url answer ∧ Succeeds answer ∧
      answer.delivery ≠ .complete
  /-- The request is reported when there is no answer. -/
  request : ∀ named, outcome = .error (.error (.request named)) ↔
    url = named ∧ ∀ answer, ¬Obtains network url answer

/-- To speak of the answers of an exchange is to speak of its one answer. -/
theorem exists_obtains_iff {judged : Answer → Prop} (obtains : Obtains network url answer) :
    (∃ other, Obtains network url other ∧ judged other) ↔ judged answer := by
  constructor
  · rintro ⟨other, otherObtains, holds⟩
    rwa [obtains_unique obtains otherObtains]
  · exact fun holds => ⟨answer, obtains, holds⟩

theorem fetch_classified (timed : ¬Overdue client network url) :
    Classified network url (client.fetch network url).1 := by
  rcases fetch_cases timed with ⟨unanswered, told⟩ | ⟨answer, obtains, told⟩
  · rw [told]
    constructor <;> simp [unanswered]
  · have answered : ¬∀ other, ¬Obtains network url other := fun none => none answer obtains
    by_cases succeeds : Succeeds answer
    · by_cases complete : answer.delivery = .complete
      · rw [told, document_complete succeeds complete, Except.mapError]
        constructor <;> simp [exists_obtains_iff obtains, succeeds, complete, answered]
      · rw [told, document_broken succeeds complete, Except.mapError]
        constructor <;> simp [exists_obtains_iff obtains, succeeds, complete, answered]
    · rw [told, document_rejected succeeds, Except.mapError]
      constructor <;> simp [exists_obtains_iff obtains, succeeds, answered]

/-- The requests of a fetch. -/
theorem fetch_trail (client : Client) (network : Network) (url : String) :
    ∃ trail : List network.Address,
      (client.fetch network url).2 = trail.map (client.sent network) ∧
      trail.length ≤ 11 ∧ trail.IsChain (Redirects network) ∧
      ∀ first ∈ trail.head?, network.read url = some (.web first) := by
  cases read : network.read url with
  | none => exact ⟨[], by rw [fetch_unreadable read]; rfl, by simp⟩
  | some destination =>
    by_cases timely : Timely client network
    · cases destination with
      | elsewhere => exact ⟨[], by rw [fetch_timely read timely]; rfl, by simp⟩
      | web address =>
        obtain ⟨trail, written, bound, chain, starts⟩ :=
          follow_trail client network redirectLimit address
        refine ⟨trail, by rw [fetch_timely read timely, Client.ask, written], bound, chain, ?_⟩
        intro first member
        rw [starts first member]
    · exact ⟨[], by rw [fetch_overdue ⟨timely, destination, read⟩]; rfl, by simp⟩

end

/-- A network of one host, whose documents have moved: to one that is whole, one that breaks off and one
that is gone, to itself, and to a place that is not on the web. -/
def movedDocuments : Network where
  Address := List Char
  read url :=
    if "http://host/".toList.isPrefixOf url.toList then some (.web (url.toList.drop 11)) else none
  join _ location :=
    let path := location.map fun byte => Char.ofNat byte.toNat
    some (if path = "ftp://host/".toList then .elsewhere else .web path)
  target := id
  contact address :=
    let moved (location : String) : Contact :=
      .answered ⟨302, some (encodeUtf8 location.toList), [], .complete⟩
    let routes : List (String × Contact) :=
      [("/a", moved "/whole"), ("/b", moved "/torn"), ("/c", moved "/gone"),
        ("/round", moved "/round"), ("/away", moved "ftp://host/"),
        ("/whole", .answered ⟨200, none, [0x68, 0x69, 0xFF], .complete⟩),
        ("/torn", .answered ⟨200, none, [0x68], .stalled⟩),
        ("/gone", .answered ⟨404, none, [], .short⟩)]
    (routes.lookup (String.ofList address)).getD .refused
  clock := 0

/-- One redirect leads to any answer that is none. -/
theorem obtains_behind_redirect {network : Network} {address next : network.Address}
    (read : network.read url = some (.web address)) (sent : Redirects network address next)
    (met : network.contact next = .answered answer) (stays : answer.isRedirect = false) :
    Obtains network url answer := by
  have nowhere : answer.next? network next = none := by
    rw [Answer.next?, stays, if_neg Bool.false_ne_true]
  exact ⟨address, read, 1, by omega, next, .on sent .here, met, next?_eq_none_iff.mp nowhere⟩

/-- A circle of redirects is left after eleven requests. -/
example : (Client.fetch ⟨"reader", 1000⟩ movedDocuments "http://host/round").2.length = 11 := by decide

end Handbook.Exchanges
