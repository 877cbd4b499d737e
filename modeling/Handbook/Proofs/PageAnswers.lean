import Handbook.Http.CommonMediaTypes
import Handbook.Proofs.Encodings
import Handbook.Proofs.Routing

/-! Answers with pages. A request that takes a route is answered by rendering the page of that
route, and a client can tell from the answer how the rendering went. The page is looked up once more
by the words of its name; that lookup cannot fail and cannot end at another page. -/
namespace Handbook.PageAnswers
open Http Text Encodings Catalogues Routing

/-- How rendering a page comes out, with the fragments that lie under the root. -/
def rendering (site : Site) (page : Page) (files : FileTree) (source : Source) :
    Except Failure Markup :=
  (Fetching.outcome (site.layout.assemble page (Fragments.load files) source)).1

/-- Assembling a page fetches its document once, and comes out as the fetch does. -/
theorem assemble_outcome (layout : Layout) (page : Page) (fragments : Fragments) (source : Source) :
    Fetching.outcome (layout.assemble page fragments source) =
      ((source.answer page.source).map fun text =>
        layout.present page fragments (Markdown.renderChars text.toList), [page.source]) := by
  simp only [Fetching.outcome, Layout.assemble, Source.fetchHtml, Source.fetch]
  cases source.answer page.source <;> rfl

theorem rendering_eq (site : Site) (page : Page) (files : FileTree) (source : Source) :
    rendering site page files source = (source.answer page.source).map fun text =>
      site.layout.present page (Fragments.load files) (Markdown.renderChars text.toList) := by
  rw [rendering, assemble_outcome]

/-- A page breaks down when its source does, and only then. -/
theorem rendering_breakdown_iff : rendering site page files source = .error .breakdown ↔
    source.answer page.source = .error .breakdown := by
  rw [rendering_eq]
  cases source.answer page.source <;> simp [Except.map]

/-- The page of a name is looked up by the words of that name and rendered. -/
theorem page_run {site : Site} (member : page ∈ site.catalogue.pages) (files : FileTree)
    (source : Source) :
    (StateT.run (site.page files source page.name) []).run =
      (pageResponse (rendering site page files source), [page.source]) := by
  have found := find?_name_text member
  have fetched := congrArg Prod.snd
    (assemble_outcome site.layout page (Fragments.load files) source)
  unfold Site.page
  rw [found]
  exact congrArg (Prod.mk _) fetched

/-- A request to read is answered with the page of the route it takes, as its method wants it. -/
theorem respond_read [MediaTypes] {site : Site} (member : page ∈ site.catalogue.pages)
    (routed : nameAt? routes uri.path = some page.name) (reads : method = .get ∨ method = .head)
    (files : FileTree) (source : Source) :
    site.respond routes files source ⟨method, uri⟩ =
      ((pageResponse (rendering site page files source)).forMethod method, [page.source]) := by
  obtain ⟨route, taken, same⟩ := Option.map_eq_some_iff.mp routed
  have run := page_run member files source
  rw [← same] at run
  unfold Site.respond Site.answer
  rw [taken]
  rcases reads with rfl | rfl
  · exact run
  · exact congrArg (fun reply => (reply.1.forMethod .head, reply.2)) run

theorem respond_page [MediaTypes] {site : Site} (member : page ∈ site.catalogue.pages)
    (routed : nameAt? routes uri.path = some page.name) (files : FileTree) (source : Source) :
    site.respond routes files source ⟨.get, uri⟩ =
      (pageResponse (rendering site page files source), [page.source]) :=
  respond_read member routed (.inl rfl) files source

/-- Any other request that takes a route is refused before anything is fetched. -/
theorem respond_refused [MediaTypes] {site : Site}
    (taken : routeAt? routes uri.path = some route) (name : String) (files : FileTree)
    (source : Source) :
    site.respond routes files source ⟨.other name, uri⟩ =
      (.blank 405 [(.allow, allowedMethods)], []) := by
  unfold Site.respond Site.answer
  rw [taken]
  rfl

/-- A request whose path takes no route is answered from the files alone. -/
theorem respond_file [MediaTypes] {site : Site}
    (untaken : routeAt? routes request.uri.path = none) (files : FileTree) (source : Source) :
    site.respond routes files source request = (fileAnswer files request, []) := by
  unfold Site.respond Site.answer
  rw [untaken]
  rfl

theorem pageResponse_ok_iff : (pageResponse result).status = 200 ∧
    (pageResponse result).body = encodeUtf8 html ↔ result = .ok html := by
  cases result with
  | ok shown => simp [pageResponse, Response.text, encodeUtf8_injective.eq_iff]
  | error failure => cases failure <;> simp [pageResponse, Response.text, Response.blank]

theorem pageResponse_error_iff : (pageResponse result).status = 502 ∧
    (pageResponse result).body = utf8 ("Could not load page content: " ++ report) ↔
      ∃ error, result = .error (.error error) ∧ error.message = report := by
  cases result with
  | ok shown => simp [pageResponse, Response.text]
  | error failure =>
    cases failure with
    | error error =>
      simp [pageResponse, Response.text, utf8, encodeUtf8_injective.eq_iff, String.toList_inj]
    | breakdown => simp [pageResponse, Response.blank]

theorem pageResponse_breakdown_iff : (pageResponse result).status = 500 ∧
    (pageResponse result).body = [] ↔ result = .error .breakdown := by
  cases result with
  | ok shown => simp [pageResponse, Response.text]
  | error failure => cases failure <;> simp [pageResponse, Response.text, Response.blank]

theorem pageResponse_status_ne_not_found (result : Except Failure Markup) :
    (pageResponse result).status ≠ 404 := by
  cases result with
  | ok shown => simp [pageResponse, Response.text]
  | error failure => cases failure <;> simp [pageResponse, Response.text, Response.blank]

/-- Every route leads to a page of the site, and the answer to a request that takes it says exactly
how that page renders: its markup, the report of a failed fetch, or nothing after a breakdown of the
source. The page is never missing and never exchanged for another. -/
theorem page_answer_iff_rendering [MediaTypes] {site : Site} {uri : Uri}
    (built : site.routes? = some routes) (routed : routeAt? routes uri.path = some route)
    (files : FileTree) (source : Source) :
    (∃ page ∈ site.catalogue.pages, page.name = route.name) ∧
    ∀ page ∈ site.catalogue.pages, page.name = route.name →
      let response := (site.respond routes files source ⟨.get, uri⟩).1
      let rendered := rendering site page files source
      site.catalogue.find? route.name.text = some page ∧ response.status ≠ 404 ∧
      (∀ html, response.status = 200 ∧ response.body = encodeUtf8 html ↔ rendered = .ok html) ∧
      (∀ report, response.status = 502 ∧
          response.body = utf8 ("Could not load page content: " ++ report) ↔
        ∃ error, rendered = .error (.error error) ∧ error.message = report) ∧
      (response.status = 500 ∧ response.body = [] ↔
        source.answer page.source = .error .breakdown) := by
  have dispatched : nameAt? routes uri.path = some route.name := by simp [nameAt?, routed]
  obtain ⟨known, _⟩ := (nameAt?_eq_some_iff (routes?_laid built)).mp dispatched
  refine ⟨List.mem_map.mp known, ?_⟩
  intro page member same
  rw [← same] at dispatched ⊢
  simp only [respond_page member dispatched]
  refine ⟨find?_name_text member, pageResponse_status_ne_not_found _, ?_, ?_, ?_⟩
  · exact fun html => pageResponse_ok_iff
  · exact fun report => pageResponse_error_iff
  · exact pageResponse_breakdown_iff.trans rendering_breakdown_iff

/-- Pages whose names carry two endings, nothing but an ending, and no ending. -/
def spellings : Site where
  layout := bareLayout
  catalogue :=
    { pages :=
        [⟨⟨"x.html.html", by decide, by decide⟩, "", "two", none, false⟩,
          ⟨⟨".html", by decide, by decide⟩, "", "bare", none, false⟩,
          ⟨⟨"x", by decide, by decide⟩, "", "none", none, false⟩]
      distinct := by decide }

/-- The page with two endings answers for itself when its own source breaks down. -/
theorem two_endings_break_down_alone :
    let uri : Uri := ⟨none, none, "/x.html.html".toList, none⟩
    let source : Source := ⟨fun url => if url = "two" then .error .breakdown else .ok url⟩
    ∃ routes route, spellings.routes? = some routes ∧ routeAt? routes uri.path = some route ∧
      (spellings.respond routes .empty source ⟨.get, uri⟩).1.status = 500 ∧
      (spellings.respond routes .empty source ⟨.get, uri⟩).1.body = [] := by
  intro uri source
  obtain ⟨routes, built⟩ := Option.isSome_iff_exists.mp (show spellings.routes?.isSome by decide)
  let page : Page := ⟨⟨"x.html.html", by decide, by decide⟩, "", "two", none, false⟩
  have member : page ∈ spellings.catalogue.pages := by decide
  have publishes : Publishes page.name uri.path := .inl (by decide)
  have dispatched := (nameAt?_eq_some_iff (routes?_laid built)).mpr
    ⟨List.mem_map_of_mem member, publishes⟩
  obtain ⟨route, routed, same⟩ := Option.map_eq_some_iff.mp dispatched
  have answered := (page_answer_iff_rendering built routed .empty source).2 page member same.symm
  exact ⟨routes, route, built, routed, answered.2.2.2.2.mpr rfl⟩

end Handbook.PageAnswers
