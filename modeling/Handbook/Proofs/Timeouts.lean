import Handbook.Proofs.Catalogues
import Handbook.Proofs.CommandLines
import Handbook.Proofs.Exchanges
import Handbook.Proofs.Presentations

/-! Timeouts and the clock. A timeout is any number of 64 bits, but the clock that a wait is timed
with counts its seconds in 63: a wait that would end beyond them breaks down before anybody is
asked. -/
namespace Handbook.Timeouts
open CommandLine Fetch Exchanges Catalogues CommandLines Presentations

/-! ## Fetching with a timeout -/

/-- The seconds of a wait and the seconds on the clock have to stay within 63 bits together. -/
theorem timely_iff {network : Network} :
    Timely ⟨agent, seconds * 1000⟩ network ↔ network.clock + seconds < 2 ^ 63 := by
  have timeout : (Client.mk agent (seconds * 1000)).timeout = seconds * 1000 := rfl
  rw [Timely, clockLimit, UInt64.size, timeout]
  omega

/-- Whether a fetch comes back, with a text or with an error. -/
def Returns (outcome : Except Failure String) : Prop :=
  ∃ returned : Except FetchError String, outcome = returned.mapError .error

theorem returns_iff : Returns outcome ↔ outcome ≠ .error .breakdown := by
  constructor
  · rintro ⟨text | error, rfl⟩ <;> simp [Except.mapError]
  · intro unbroken
    cases outcome with
    | ok text => exact ⟨.ok text, rfl⟩
    | error failure =>
      cases failure with
      | error error => exact ⟨.error error, rfl⟩
      | breakdown => exact absurd rfl unbroken

/-- A fetch fails to return only when it is the clock that fails, which it does before it matters what
the host is asked. -/
theorem fetch_returns_iff {client : Client} {network : Network} :
    Returns (client.fetch network url).1 ↔
      (network.read url).isNone ∨ Timely client network := by
  rw [returns_iff, ← not_overdue_iff]
  by_cases overdue : Overdue client network url
  · rw [fetch_overdue overdue]
    exact iff_of_false (fun unbroken => unbroken rfl) (fun timed => timed overdue)
  · refine iff_of_true ?_ overdue
    intro broken
    rcases fetch_cases overdue with ⟨_, told⟩ | ⟨answer, _, told⟩
    · rw [broken] at told
      cases told
    · rw [broken] at told
      exact returns_iff.mp ⟨answer.document url, told⟩ rfl

/-- Nobody in the network answers. -/
def Deserted (network : Network) : Prop :=
  ∀ address answer, network.contact address ≠ .answered answer

theorem ask_deserted {network : Network} (deserted : Deserted network) (client : Client)
    (destination : Destination network.Address) : (client.ask network destination).1 = none := by
  cases destination with
  | elsewhere => rfl
  | web address =>
    rw [Client.ask]
    cases met : network.contact address with
    | refused => rw [follow_refused client met]
    | silent => rw [follow_silent client met]
    | answered answer => exact absurd met (deserted address answer)

/-- Where nobody answers, the request is reported. -/
theorem fetch_deserted (deserted : Deserted network) (timed : ¬Overdue client network url) :
    (client.fetch network url).1 = .error (.error (.request url)) := by
  cases read : network.read url with
  | none => rw [fetch_unreadable read]
  | some destination =>
    rw [fetch_timely read (timely_of_read timed read), ask_deserted deserted]

/-! ## Rendering a page -/

/-- A page that is found is rendered, and its document is all that is fetched. -/
theorem render_eq {invocation : Invocation}
    (found : (Catalogue.standard .standard).find? text = some page) (fragments : Fragments)
    (network : Network) : invocation.render text fragments network =
      (.ofRendering page
        (rendered invocation.layout page fragments (invocation.client.source network)),
        [page.source]) := by
  simp only [Invocation.render, found, rendered, assemble_outcome_written]

theorem render_failed {invocation : Invocation} {failure : Failure}
    (found : (Catalogue.standard .standard).find? text = some page)
    (failed : (invocation.client.fetch network page.source).1 = .error failure)
    (fragments : Fragments) : invocation.render text fragments network =
      (.ofRendering page (.error failure), [page.source]) := by
  have answer : (invocation.client.source network).answer page.source = .error failure := failed
  rw [render_eq found, rendered_eq, answer]
  rfl

/-- No name of a page is taken for a flag. -/
theorem head?_ne_dash_of_names {page : Page} (member : page ∈ (Catalogue.standard .standard).pages)
    (named : Names text page.name.stem) : text.toList.head? ≠ some '-' := by
  have stems : ∀ page ∈ (Catalogue.standard .standard).pages,
      (page.name.stem ++ ".html").toList.head? ≠ some '-' ∧
        page.name.stem.toList.head? ≠ some '-' := by decide
  rcases named with rfl | ⟨rfl, _⟩
  · exact (stems page member).1
  · exact (stems page member).2

/-- With a timeout alone, a page is rendered by the client that waits for so long. -/
theorem perform_timeout (read : readNumber secondsLimit text = .ok seconds)
    (undashed : page.toList.head? ≠ some '-') (fragmentsAt : String → Fragments)
    (network : Network) :
    ∃ invocation : Invocation, invocation.client = ⟨userAgent, seconds * 1000⟩ ∧
      perform none fragmentsAt network ["--timeout", text, "render", page] =
        invocation.render page (fragmentsAt invocation.root) network := by
  let prelude : Prelude (seconds + 1) :=
    { entries := [(.timeout text, .wide)]
      fits := by
        intro entry member
        rw [List.mem_singleton.mp member]
        exact ⟨seconds, Nat.lt_succ_self seconds, read⟩
      distinct := List.nodup_singleton _
      apart := by simp [Setting.flag] }
  have waits : (prelude.invocation (.render page)).timeout = seconds := by
    have given : (taken prelude.settings).value? .timeout = some text := rfl
    simp only [Prelude.invocation, Reading.invocation, given, Option.map_some, read]
  exact ⟨prelude.invocation (.render page), by rw [Invocation.client, waits],
    perform_render prelude undashed fragmentsAt network⟩

/-! ## Which timeouts are safe -/

/-- Every number of 64 bits is accepted as a timeout, and it is waited for as long as its end stays
within the 63 bits of the clock: a fetch then returns a text or an error, and a run that renders a page
where nobody answers reports its request. Beyond them a fetch returns only where the address names no
host, and the run breaks down instead. -/
theorem fetch_returns_iff_clock_shows_end (accepted : seconds < secondsLimit) (network : Network) :
    readNumber secondsLimit (toString seconds) = .ok seconds ∧
    (∀ agent url, Returns ((Client.mk agent (seconds * 1000)).fetch network url).1 ↔
      (network.read url).isNone ∨ network.clock + seconds < 2 ^ 63) ∧
    (Deserted network → ∀ text, readNumber secondsLimit text = .ok seconds →
      ∀ fragmentsAt, ∀ page ∈ (Catalogue.standard .standard).pages, ∀ named,
      Names named page.name.stem →
      perform none fragmentsAt network ["--timeout", text, "render", named] =
        (if (network.read page.source).isNone ∨ network.clock + seconds < 2 ^ 63 then
          .failed ⟨"request for " ++ page.source ++ " failed",
            some ("While fetching " ++ page.source), none⟩
        else .broken, [page.source])) := by
  refine ⟨readNumber_toString accepted, ?_, ?_⟩
  · intro agent url
    exact fetch_returns_iff.trans (or_congr_right timely_iff)
  · intro deserted text read fragmentsAt page member named names
    have found := find?_eq_some_iff_names.mpr ⟨member, names⟩
    obtain ⟨invocation, client, run⟩ :=
      perform_timeout read (head?_ne_dash_of_names member names) fragmentsAt network
    have timed_iff : ¬Overdue invocation.client network page.source ↔
        (network.read page.source).isNone ∨ network.clock + seconds < 2 ^ 63 := by
      rw [not_overdue_iff, client, timely_iff]
    rw [run]
    by_cases overdue : Overdue invocation.client network page.source
    · have failed : (invocation.client.fetch network page.source).1 = .error .breakdown := by
        rw [fetch_overdue overdue]
      rw [render_failed found failed, if_neg fun timed => timed_iff.mpr timed overdue]
      rfl
    · have failed := fetch_deserted deserted overdue
      rw [render_failed found failed, if_pos (timed_iff.mp overdue)]
      rfl

/-- The longest timeout that is safe while the clock shows nothing lets a run report its request. -/
theorem longest_safe_timeout_is_reported :
    (perform none (fun _ => ⟨[], []⟩) .unreachable
      ["--timeout", "9223372036854775807", "render", "index.html"]).1.code = 1 := by
  have read : readNumber secondsLimit "9223372036854775807" = .ok 9223372036854775807 := by decide
  have accepted : 9223372036854775807 < secondsLimit := by decide
  have deserted : Deserted .unreachable := by
    intro address answer answered
    cases answered
  let page : Page := (⟨⟨"index", by decide, by decide⟩, "Mechanic", "Overview.md",
    some "styleCode()", false⟩ : PagePlan).page .standard
  have member : page ∈ (Catalogue.standard .standard).pages := List.mem_cons_self
  obtain ⟨_, _, run⟩ := fetch_returns_iff_clock_shows_end accepted .unreachable
  have shown : Network.unreachable.clock + 9223372036854775807 < 2 ^ 63 := by decide
  rw [run deserted _ read _ page member "index.html" (.inl (by decide)), if_pos (.inr shown)]
  rfl

/-- The longest timeout that the command line accepts breaks down even where the clock still shows
nothing. -/
theorem longest_timeout_breaks_run :
    readNumber secondsLimit "18446744073709551615" = .ok 18446744073709551615 ∧
    ¬Returns ((Client.mk userAgent (18446744073709551615 * 1000)).fetch .unreachable
      "http://host/").1 ∧
    (perform none (fun _ => ⟨[], []⟩) .unreachable
      ["--timeout", "18446744073709551615", "render", "index"]).1.code = 101 := by
  refine ⟨by decide, ?_, by decide⟩
  rw [returns_iff]
  decide

end Handbook.Timeouts
