import Handbook.Http.CommonMediaTypes
import Handbook.Proofs.PageAnswers

/-! The space of addresses. The pages of a site divide the paths among themselves and the files: a
path belongs to one page or to the files, and neither files nor queries nor the order of the pages
have a say in it. Names are pasted into routes as they are, while a client encodes them, so the
division follows the published names only as far as the two spellings agree. -/
namespace Handbook.UrlSpace
open Http Text PageNames Encodings Catalogues Routing PageAnswers

/-- A name of unreserved characters, which has one spelling everywhere. -/
def Unreserved (name : PageName) : Prop := name.text.toList.all isUnreservedChar = true

/-- The paths that the published name of a page suggests. -/
def OwnPath (name : PageName) (path : List Char) : Prop :=
  path = '/' :: name.fileName.toList ∨ path = ['/'] ∧ name.stem = "index"

/-- What a client may write means nothing to a pattern. -/
private theorem isBrace_written (written : isUnreservedChar c = true ∨ c = '%') :
    isBrace c = false := by
  cases brace : isBrace c with
  | false => rfl
  | true =>
    simp only [isBrace, Bool.or_eq_true, beq_iff_eq] at brace
    rcases brace with rfl | rfl <;> exact absurd written (by decide)

private theorem startsCapture_written (written : ∀ c ∈ cs, isUnreservedChar c = true ∨ c = '%') :
    startsCapture cs = false := by
  cases cs with
  | nil => rfl
  | cons c rest =>
    cases capture : startsCapture (c :: rest) with
    | false => rfl
    | true =>
      have first := written c (by simp)
      simp only [startsCapture, Bool.or_eq_true, beq_iff_eq] at capture
      rcases capture with rfl | rfl <;> exact absurd first (by decide)

theorem unreserved_iff_fileName {name : PageName} :
    Unreserved name ↔ ∀ c ∈ name.fileName.toList, isUnreservedChar c = true := by
  rw [Unreserved, ← all_fileName (by decide), List.all_eq_true]

theorem routePath?_of_unreserved (unreserved : Unreserved name) :
    routePath? name.fileName.toList = some ('/' :: name.fileName.toList) := by
  have written : ∀ c ∈ name.fileName.toList, isUnreservedChar c = true ∨ c = '%' :=
    fun c member => .inl (unreserved_iff_fileName.mp unreserved c member)
  exact routePath?_plain (startsCapture_written written)
    fun c member => isBrace_written (written c member)

theorem publishes_iff_ownPath (unreserved : Unreserved name) :
    Publishes name path ↔ OwnPath name path := by
  rw [Publishes, OwnPath, routePath?_of_unreserved unreserved, Option.some.injEq,
    eq_comm (a := path), and_comm (b := name.stem = "index"), rootStem, eq_comm (a := path)]

/-- A page takes no path from another. -/
theorem eq_of_ownPath {catalogue : Catalogue} (member : page ∈ catalogue.pages)
    (otherMember : other ∈ catalogue.pages) (left : OwnPath page.name path)
    (right : OwnPath other.name path) : page = other := by
  have root : ∀ name : PageName, '/' :: name.fileName.toList ≠ ['/'] := fun name same =>
    fileName_toList_ne_nil name (List.cons.inj same).2
  apply eq_of_stem_eq member otherMember
  rcases left with rfl | ⟨rfl, index⟩
  · rcases right with same | ⟨same, _⟩
    · exact fileName_eq_iff.mp (String.toList_inj.mp (List.cons.inj same).2)
    · exact absurd same (root page.name)
  · rcases right with same | ⟨_, otherIndex⟩
    · exact absurd same.symm (root other.name)
    · exact index.trans otherIndex.symm

/-- A file name is a path of the page that a lookup of it finds. -/
theorem ownPath_iff_find? {catalogue : Catalogue} (member : page ∈ catalogue.pages)
    {text : String} (ends : pageEnding <:+ text.toList) (bare : text.toList ≠ pageEnding) :
    OwnPath page.name ('/' :: text.toList) ↔ catalogue.find? text = some page := by
  obtain ⟨body, written⟩ := ends
  have nonempty : body ≠ [] := by
    rintro rfl
    exact bare written.symm
  rw [find?_eq_some_iff_fileName nonempty written.symm]
  constructor
  · rintro (same | ⟨root, _⟩)
    · exact ⟨member, String.toList_inj.mp (List.cons.inj same).2.symm⟩
    · rw [← written] at root
      simp [pageEnding] at root
  · rintro ⟨_, rfl⟩
    exact .inl rfl

/-- The index has both of its paths. -/
private theorem ownPath_index {name : PageName} (index : name.stem = "index") :
    OwnPath name ['/'] ∧ OwnPath name "/index.html".toList := by
  refine ⟨.inr ⟨rfl, index⟩, .inl ?_⟩
  simp [PageName.fileName, index, pageEnding]

/-- Which pages a site has decides its answers; in which order it has them does not. -/
theorem respond_eq_of_same_pages [MediaTypes] {layout : Layout} {left right : Catalogue}
    (same : ∀ page, page ∈ left.pages ↔ page ∈ right.pages)
    (leftBuilt : (Site.mk layout left).routes? = some routes)
    (rightBuilt : (Site.mk layout right).routes? = some others) (files : FileTree)
    (source : Source) (request : Request) :
    (Site.mk layout left).respond routes files source request =
      (Site.mk layout right).respond others files source request := by
  have leftLaid := routes?_laid leftBuilt
  have rightLaid := routes?_laid rightBuilt
  have known : ∀ name, name ∈ left.pages.map Page.name ↔ name ∈ right.pages.map Page.name := by
    simp [same]
  cases taken : routeAt? routes request.uri.path with
  | none =>
    have untaken : routeAt? others request.uri.path = none :=
      (routeAt?_eq_none_iff rightLaid).mpr fun name member =>
        (routeAt?_eq_none_iff leftLaid).mp taken name ((known name).mpr member)
    rw [respond_file taken, respond_file untaken]
  | some route =>
    have dispatched : nameAt? routes request.uri.path = some route.name := by simp [nameAt?, taken]
    obtain ⟨member, publishes⟩ := (nameAt?_eq_some_iff leftLaid).mp dispatched
    obtain ⟨other, otherTaken, sameName⟩ := Option.map_eq_some_iff.mp
      ((nameAt?_eq_some_iff rightLaid).mpr ⟨(known route.name).mp member, publishes⟩)
    have answers : (Site.mk layout left).page files source route.name =
        (Site.mk layout right).page files source other.name := by
      simp only [Site.page, sameName, find?_eq_of_same_pages same]
    simp only [Site.respond, Site.answer, taken, otherTaken, Site.pageAnswer, answers]

/-- How a site divides the paths between its pages and its files. -/
structure Partition [MediaTypes] (site : Site) (routes : List Route) : Prop where
  /-- A path is dispatched to a page exactly when it is a path of that page. -/
  dispatched : ∀ page ∈ site.catalogue.pages, ∀ path,
    nameAt? routes path = some page.name ↔ OwnPath page.name path
  /-- No path belongs to two pages. -/
  alone : ∀ page ∈ site.catalogue.pages, ∀ other ∈ site.catalogue.pages, ∀ path,
    OwnPath page.name path → OwnPath other.name path → page = other
  /-- Every other path is left to the files. -/
  remaining : ∀ request, (∀ page ∈ site.catalogue.pages, ¬OwnPath page.name request.uri.path) →
    ∀ files source, site.respond routes files source request = (fileAnswer files request, [])
  /-- No file stands in front of a page, whatever lies under the root. -/
  unshadowed : ∀ page ∈ site.catalogue.pages, ∀ uri, OwnPath page.name uri.path →
    ∀ files source, site.respond routes files source ⟨.get, uri⟩ =
      (pageResponse (rendering site page files source), [page.source])
  /-- The index is the same at both of its paths. -/
  rootIsIndex : ∀ page ∈ site.catalogue.pages, page.name.stem = "index" →
    ∀ root named : Uri, root.path = ['/'] → named.path = "/index.html".toList →
      ∀ files source, site.respond routes files source ⟨.get, root⟩ =
        site.respond routes files source ⟨.get, named⟩
  /-- Queries make no difference to a page. -/
  queryless : ∀ page ∈ site.catalogue.pages, ∀ uri, OwnPath page.name uri.path →
    ∀ query files source, site.respond routes files source ⟨.get, { uri with query }⟩ =
      site.respond routes files source ⟨.get, uri⟩
  /-- A file name is dispatched to the page that a lookup of it finds. -/
  lookup : ∀ text : String, pageEnding <:+ text.toList → text.toList ≠ pageEnding →
    ∀ page ∈ site.catalogue.pages, nameAt? routes ('/' :: text.toList) = some page.name ↔
      site.catalogue.find? text = some page
  /-- The same pages in another order are accepted as well and answer everything alike. -/
  reordered : ∀ pages : List Page, pages.Perm site.catalogue.pages →
    ∃ catalogue others, Catalogue.ofPages pages = .ok catalogue ∧
      (Site.mk site.layout catalogue).routes? = some others ∧
      ∀ files source request, (Site.mk site.layout catalogue).respond others files source request =
        site.respond routes files source request

theorem unreserved_routes (site : Site)
    (unreserved : ∀ page ∈ site.catalogue.pages, Unreserved page.name) :
    ∃ routes, site.routes? = some routes := by
  apply Option.isSome_iff_exists.mp
  rw [routes?_isSome_iff]
  intro page member
  rw [routePath?_of_unreserved (unreserved page member)]
  rfl

private theorem reordered_answers [MediaTypes] {site : Site} (built : site.routes? = some routes)
    (unreserved : ∀ page ∈ site.catalogue.pages, Unreserved page.name)
    (permuted : pages.Perm site.catalogue.pages) :
    ∃ catalogue others, Catalogue.ofPages pages = .ok catalogue ∧
      (Site.mk site.layout catalogue).routes? = some others ∧
      ∀ files source request, (Site.mk site.layout catalogue).respond others files source request =
        site.respond routes files source request := by
  obtain ⟨catalogue, accepted⟩ := exists_reordered permuted
  obtain rfl := ofPages_eq_ok_iff.mp accepted
  obtain ⟨others, otherBuilt⟩ := unreserved_routes ⟨site.layout, catalogue⟩
    fun page member => unreserved page (permuted.mem_iff.mp member)
  refine ⟨catalogue, others, accepted, otherBuilt, ?_⟩
  exact respond_eq_of_same_pages (fun page => permuted.mem_iff) otherBuilt built

/-- Pages with unreserved names can always be served, and they divide the paths by their file names.
Everything that is no file name of a page, nor the root where there is an index, goes to the
files. -/
theorem unreserved_pages_partition_paths [MediaTypes] (layout : Layout) {pages : List Page}
    {catalogue : Catalogue} (accepted : Catalogue.ofPages pages = .ok catalogue)
    (unreserved : ∀ page ∈ pages, Unreserved page.name) :
    ∃ routes, (Site.mk layout catalogue).routes? = some routes ∧
      Partition (Site.mk layout catalogue) routes := by
  obtain rfl := ofPages_eq_ok_iff.mp accepted
  obtain ⟨routes, built⟩ := unreserved_routes ⟨layout, catalogue⟩ unreserved
  have laid := routes?_laid built
  have dispatched : ∀ page ∈ catalogue.pages, ∀ path,
      nameAt? routes path = some page.name ↔ OwnPath page.name path := by
    intro page member path
    rw [nameAt?_eq_some_iff laid, publishes_iff_ownPath (unreserved page member)]
    exact and_iff_right (List.mem_map_of_mem member)
  have answered : ∀ page ∈ catalogue.pages, ∀ uri : Uri, OwnPath page.name uri.path →
      ∀ files source, (Site.mk layout catalogue).respond routes files source ⟨.get, uri⟩ =
        (pageResponse (rendering ⟨layout, catalogue⟩ page files source), [page.source]) := by
    intro page member uri own files source
    exact respond_page member ((dispatched page member uri.path).mpr own) files source
  refine ⟨routes, built, dispatched, ?_, ?_, answered, ?_, ?_, ?_, ?_⟩
  · exact fun page member other otherMember path => eq_of_ownPath member otherMember
  · intro request foreign files source
    apply respond_file
    rw [routeAt?_eq_none_iff laid]
    rintro name known publishes
    obtain ⟨page, member, rfl⟩ := List.mem_map.mp known
    exact foreign page member ((publishes_iff_ownPath (unreserved page member)).mp publishes)
  · intro page member index root named atRoot atName files source
    obtain ⟨atRootOwn, atNameOwn⟩ := ownPath_index index
    rw [answered page member root (atRoot ▸ atRootOwn) files source,
      answered page member named (atName ▸ atNameOwn) files source]
  · intro page member uri own query files source
    rw [answered page member { uri with query } own files source,
      answered page member uri own files source]
  · intro text ends bare page member
    rw [dispatched page member]
    exact ownPath_iff_find? member ends bare
  · intro others permuted
    exact reordered_answers built unreserved permuted

/-- Names with several endings or with nothing else are divided like any others. -/
theorem stacked_endings_partition_paths :
    let pages : List Page :=
      [⟨⟨"a.html.html", by decide, by decide⟩, "", "", none, false⟩,
        ⟨⟨".html", by decide, by decide⟩, "", "", none, false⟩,
        ⟨⟨"index.html", by decide, by decide⟩, "", "", none, false⟩]
    ∃ catalogue routes, Catalogue.ofPages pages = .ok catalogue ∧
      (Site.mk bareLayout catalogue).routes? = some routes ∧
      Partition (Site.mk bareLayout catalogue) routes := by
  intro pages
  have accepted : Catalogue.ofPages pages = .ok ⟨pages, by decide⟩ := ofPages_eq_ok_iff.mpr rfl
  have unreserved : ∀ page ∈ pages, Unreserved page.name := by
    simp only [pages, List.forall_mem_cons, Unreserved]
    decide
  obtain ⟨routes, built, partition⟩ :=
    unreserved_pages_partition_paths bareLayout accepted unreserved
  exact ⟨_, routes, accepted, built, partition⟩

/-- A path that a client has written belongs to a page exactly when the file name of the page is
spelled like that. -/
theorem publishes_urlText_iff (nonempty : cs ≠ []) :
    Publishes name ('/' :: urlText cs) ↔ name.fileName.toList = urlText cs := by
  have written : ∀ c ∈ urlText cs, isUnreservedChar c = true ∨ c = '%' := fun c => urlText_chars
  constructor
  · rintro (spelled | ⟨_, root⟩)
    · obtain ⟨_, text, file, same⟩ := routePath?_eq_some_iff.mp spelled
      cases same
      rw [file, doubled_plain fun c member => isBrace_written (written c member)]
    · have short := length_le_urlText cs
      rw [(List.cons.inj root).2] at short
      exact absurd (List.length_eq_zero_iff.mp (Nat.le_zero.mp short)) nonempty
  · intro file
    rw [Publishes, file]
    exact .inl (routePath?_plain (startsCapture_written written)
      fun c member => isBrace_written (written c member))

/-- A client that asks for a page by its published name reaches that page exactly when the name is
unreserved. Otherwise the request goes to the page whose own name looks like the encoded one, if
there is such a page, and to the files if there is none. -/
theorem encoded_name_reaches_page_iff_unreserved {site : Site} (built : site.routes? = some routes)
    (member : page ∈ site.catalogue.pages) :
    let sent := urlText page.name.fileName.toList
    (nameAt? routes ('/' :: sent) = some page.name ↔ Unreserved page.name) ∧
    (∀ other ∈ site.catalogue.pages,
      nameAt? routes ('/' :: sent) = some other.name ↔ other.name.fileName.toList = sent) ∧
    (routeAt? routes ('/' :: sent) = none ↔
      ∀ other ∈ site.catalogue.pages, other.name.fileName.toList ≠ sent) := by
  intro sent
  have laid := routes?_laid built
  have nonempty := fileName_toList_ne_nil page.name
  have dispatched : ∀ other ∈ site.catalogue.pages,
      nameAt? routes ('/' :: sent) = some other.name ↔ other.name.fileName.toList = sent := by
    intro other otherMember
    rw [nameAt?_eq_some_iff laid, publishes_urlText_iff nonempty]
    exact and_iff_right (List.mem_map_of_mem otherMember)
  refine ⟨?_, dispatched, ?_⟩
  · rw [dispatched page member, eq_comm, urlText_eq_self_iff, unreserved_iff_fileName]
  · rw [routeAt?_eq_none_iff laid]
    simp only [List.forall_mem_map, publishes_urlText_iff nonempty, sent, ne_eq]

/-- A page with an accent in its name, and a page whose name is how a client writes that accent. -/
def accents : Site where
  layout := bareLayout
  catalogue :=
    { pages :=
        [⟨⟨"é", by decide, by decide⟩, "", "", none, false⟩,
          ⟨⟨"%C3%A9", by decide, by decide⟩, "", "", none, false⟩]
      distinct := by decide }

/-- Asking for the page with the accent leads to the other page. -/
theorem accented_page_reaches_its_spelling :
    ∃ routes, ∃ page ∈ accents.catalogue.pages, ∃ other ∈ accents.catalogue.pages,
      accents.routes? = some routes ∧ page.name.text = "é" ∧ other.name.text = "%C3%A9" ∧
      nameAt? routes ('/' :: urlText page.name.fileName.toList) = some other.name := by
  obtain ⟨routes, built⟩ := Option.isSome_iff_exists.mp (show accents.routes?.isSome by decide)
  let page : Page := ⟨⟨"é", by decide, by decide⟩, "", "", none, false⟩
  let other : Page := ⟨⟨"%C3%A9", by decide, by decide⟩, "", "", none, false⟩
  have member : page ∈ accents.catalogue.pages := by decide
  have otherMember : other ∈ accents.catalogue.pages := by decide
  have spelled : other.name.fileName.toList = urlText page.name.fileName.toList := by decide
  have dispatched := (encoded_name_reaches_page_iff_unreserved built member).2.1 other otherMember
  exact ⟨routes, page, member, other, otherMember, built, rfl, rfl, dispatched.mpr spelled⟩

/-- A site can have routes and yet leave the published name of its page to the files. -/
theorem accented_page_goes_to_files :
    ∃ (site : Site) (routes : List Route), ∃ page ∈ site.catalogue.pages,
      site.routes? = some routes ∧
      routeAt? routes ('/' :: urlText page.name.fileName.toList) = none := by
  let page : Page := ⟨⟨"é", by decide, by decide⟩, "", "", none, false⟩
  let site : Site := ⟨bareLayout, ⟨[page], by decide⟩⟩
  have untaken : (site.routes?.map fun routes =>
      routeAt? routes ('/' :: urlText page.name.fileName.toList)) = some none := by decide
  obtain ⟨routes, built, none⟩ := Option.map_eq_some_iff.mp untaken
  exact ⟨site, routes, page, List.mem_singleton.mpr rfl, built, none⟩

end Handbook.UrlSpace
