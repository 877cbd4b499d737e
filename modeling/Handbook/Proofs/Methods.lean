import Handbook.Http.CommonMediaTypes
import Handbook.Proofs.Sessions

/-! Methods. A server is there to be read. Whatever else a request wants to be done is refused alike
at a page, at a file and where nothing lies, before the site or its files are looked at. A request
for the head of a page goes the whole way that a request for the page goes, and only the body stays
behind. -/
namespace Handbook.Methods
open Http Text Routing PageAnswers Sessions

/-- A refusal: nothing is answered but the methods that would be, and nothing is fetched. -/
structure Refused (answer : Response × List String) : Prop where
  status : answer.1.status = 405
  allow : answer.1.headers.lookup .allow = some "GET,HEAD"
  empty : answer.1.body = []
  unfetched : answer.2 = []

/-- An answer to a request for the head alone, beside the answer to the request that wants the body
too. The length is that of the body which is left out. -/
structure HeadOf (head whole : Response × List String) : Prop where
  status : head.1.status = whole.1.status
  headers : head.1.headers = whole.1.headers
  length : head.1.headers.lookup .contentLength = some (toString whole.1.body.length)
  empty : head.1.body = []
  fetched : head.2 = whole.2

/-- The status that tells how rendering a page comes out. -/
def outcomeStatus : Except Failure Markup → Nat
  | .ok _ => 200
  | .error (.error _) => 502
  | .error .breakdown => 500

theorem pageResponse_status (result : Except Failure Markup) :
    (pageResponse result).status = outcomeStatus result := by
  cases result with
  | ok html => rfl
  | error failure => cases failure <;> rfl

/-- Every answer with a page says how long it is. -/
theorem pageResponse_length (result : Except Failure Markup) :
    (pageResponse result).headers.lookup .contentLength =
      some (toString (pageResponse result).body.length) := by
  cases result with
  | ok html => rfl
  | error failure => cases failure <;> rfl

section
variable [MediaTypes]

/-- A method that does not read is refused by the routes alone. Where a page has a route, the refusal
says that it is empty, and where the files would answer it does not. -/
theorem respond_other (site : Site) (routes : List Route) (files : FileTree) (source : Source)
    (name : String) (uri : Uri) :
    site.respond routes files source ⟨.other name, uri⟩ =
      (⟨405, (.allow, allowedMethods) ::
        if (routeAt? routes uri.path).isSome then [(.contentLength, "0")] else [], []⟩, []) := by
  cases taken : routeAt? routes uri.path with
  | none => exact respond_file taken files source
  | some route => exact respond_refused taken name files source

theorem refused_other (site : Site) (routes : List Route) (files : FileTree) (source : Source)
    (name : String) (uri : Uri) :
    Refused (site.respond routes files source ⟨.other name, uri⟩) := by
  rw [respond_other]
  exact ⟨rfl, rfl, rfl, rfl⟩

/-- Wherever a page is found, its head is answered like the page. -/
theorem headOf_page {site : Site} {uri : Uri} (member : page ∈ site.catalogue.pages)
    (routed : nameAt? routes uri.path = some page.name) (files : FileTree) (source : Source) :
    HeadOf (site.respond routes files source ⟨.head, uri⟩)
      (site.respond routes files source ⟨.get, uri⟩) := by
  rw [respond_read member routed (.inl rfl), respond_read member routed (.inr rfl)]
  exact ⟨rfl, rfl, pageResponse_length _, rfl, rfl⟩

/-- Methods other than the two that read are refused everywhere, and the refusal is the same whatever
the pages show, whatever lies under the root and whatever the source would answer, so nothing is
rendered for it. The head of a page is answered with the status and the headers of the page, after
the same fetch, however rendering comes out. -/
theorem head_reads_and_other_methods_are_refused {site : Site}
    (built : site.routes? = some routes) :
    (∀ method, method ≠ .get → method ≠ .head → ∀ uri files source,
      Refused (site.respond routes files source ⟨method, uri⟩) ∧
      ∀ (other : Site) otherFiles otherSource,
        other.respond routes otherFiles otherSource ⟨method, uri⟩ =
          site.respond routes files source ⟨method, uri⟩) ∧
    (∀ world method text uri, ¬Reads method → Uri.parse? text = some uri →
      ∃ response log, site.serve world method text = some (.response response log) ∧
        Refused (response, log)) ∧
    ∀ uri route, routeAt? routes uri.path = some route → ∀ files source,
      HeadOf (site.respond routes files source ⟨.head, uri⟩)
        (site.respond routes files source ⟨.get, uri⟩) ∧
      ∃ page ∈ site.catalogue.pages, page.name = route.name ∧
        (site.respond routes files source ⟨.head, uri⟩).2 = [page.source] ∧
        (site.respond routes files source ⟨.head, uri⟩).1.status =
          outcomeStatus (rendering site page files source) := by
  refine ⟨?_, ?_, ?_⟩
  · intro method notGet notHead uri files source
    cases method with
    | get => exact absurd rfl notGet
    | head => exact absurd rfl notHead
    | other name =>
      refine ⟨refused_other site routes files source name uri, ?_⟩
      intro other otherFiles otherSource
      rw [respond_other, respond_other]
  · intro world method text uri other valid
    refine ⟨_, _, serve_valid built valid world method, ?_⟩
    rw [ofName_other other]
    exact refused_other site routes world.files world.documents.source method uri
  · intro uri route taken files source
    obtain ⟨page, member, same, dispatched⟩ := exists_page_of_route built taken
    refine ⟨headOf_page member dispatched files source, page, member, same, ?_, ?_⟩
    · rw [respond_read member dispatched (.inr rfl)]
    · rw [respond_read member dispatched (.inr rfl), ← pageResponse_status]
      rfl

end

/-- Where the source of a page breaks down, the head of the page is answered with that after the same
fetch, and a method in small letters is refused at a file. -/
theorem head_breaks_down_and_small_letters_are_refused :
    let world : World := ⟨.directory [("a.txt", .file [65])], ⟨[("front", .error .breakdown)]⟩⟩
    let news : Uri := ⟨none, none, "/news.html".toList, none⟩
    ∃ routes response, bulletin.routes? = some routes ∧
      bulletin.respond routes world.files world.documents.source ⟨.head, news⟩ =
        (response, ["front"]) ∧ response.status = 500 ∧
      ∃ refusal, bulletin.serve world "get" "/a.txt" = some (.response refusal []) ∧
        refusal.status = 405 := by
  intro world news
  have taken : (bulletin.routes?.map fun routes => routeAt? routes news.path) =
      some (some ⟨news.path, ⟨"news", by decide, by decide⟩⟩) := by decide
  obtain ⟨routes, built, taken⟩ := Option.map_eq_some_iff.mp taken
  obtain ⟨_, written, heads⟩ := head_reads_and_other_methods_are_refused built
  obtain ⟨_, page, member, named, log, status⟩ :=
    heads news _ taken world.files world.documents.source
  have front : page.source = "front" := by
    simp only [bulletin, List.mem_cons, List.not_mem_nil, or_false] at member
    rcases member with rfl | rfl
    · rfl
    · exact absurd named (by decide)
  have broken : rendering bulletin page world.files world.documents.source = .error .breakdown :=
    rendering_breakdown_iff.mpr (by rw [front]; rfl)
  obtain ⟨refusal, refusalLog, served, refused⟩ :=
    written world "get" "/a.txt" ⟨none, none, "/a.txt".toList, none⟩ (by decide) (by decide)
  obtain rfl := refused.unfetched
  refine ⟨routes, _, built, Prod.ext rfl (by rw [log, front]), ?_, refusal, served, refused.status⟩
  rw [status, broken]
  rfl

end Handbook.Methods
