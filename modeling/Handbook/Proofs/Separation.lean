import Handbook.Http.CommonMediaTypes
import Handbook.Proofs.PageAnswers

/-! Pages and files apart. A page sees the files only through the two fragments, and the files see
the site only through the file names of its pages. So two servers that differ on one side of this
line answer alike on the other. -/
namespace Handbook.Separation
open Http Text PageNames Catalogues Routing PageAnswers

/-- What a fragment reads as: the text of its file, or nothing where there is no file, where a
directory has taken its name, or where its bytes are no text. -/
inductive ReadsAs (files : FileTree) (name : String) : Markup → Prop where
  | text (found : files.find? [name] = some (.file bytes)) (valid : decodeUtf8? bytes = some html) :
      ReadsAs files name html
  | garbled (found : files.find? [name] = some (.file bytes)) (broken : decodeUtf8? bytes = none) :
      ReadsAs files name []
  | directory (found : files.find? [name] = some (.directory entries)) : ReadsAs files name []
  | missing (absent : files.find? [name] = none) : ReadsAs files name []

theorem readsAs_iff {files : FileTree} :
    ReadsAs files name html ↔ Fragments.read files name = html := by
  constructor
  · rintro (⟨found, valid⟩ | ⟨found, broken⟩ | found | absent)
    · simp [Fragments.read, FileTree.read?, found, valid]
    · simp [Fragments.read, FileTree.read?, found, broken]
    · simp [Fragments.read, FileTree.read?, found]
    · simp [Fragments.read, FileTree.read?, absent]
  · rintro rfl
    unfold Fragments.read FileTree.read?
    cases found : files.find? [name] with
    | none => exact .missing found
    | some tree =>
      cases tree with
      | directory entries => exact .directory found
      | file bytes =>
        cases read : decodeUtf8? bytes with
        | none =>
          simp only [read]
          exact .garbled found read
        | some html =>
          simp only [read]
          exact .text found read

/-- Two trees in which a fragment reads alike, for whatever reason it does in each. -/
def ReadAlike (left right : FileTree) (name : String) : Prop :=
  ∃ html, ReadsAs left name html ∧ ReadsAs right name html

theorem readAlike_iff {left right : FileTree} :
    ReadAlike left right name ↔ Fragments.read left name = Fragments.read right name := by
  simp only [ReadAlike, readsAs_iff, exists_eq_left']
  exact eq_comm

/-- A request that takes a route sees the files only through the fragments. -/
theorem respond_eq_of_load_eq [MediaTypes] {site : Site} {left right : FileTree}
    (same : Fragments.load left = Fragments.load right)
    (taken : routeAt? routes request.uri.path = some route) (source : Source) :
    site.respond routes left source request = site.respond routes right source request := by
  have page : site.page left source route.name = site.page right source route.name := by
    simp only [Site.page, same]
  simp only [Site.respond, Site.answer, taken]
  cases request.method with
  | get | head => simp only [Site.pageAnswer, page]
  | other name => rfl

/-- Two catalogues whose pages have the same file names. -/
def SameFileNames (left right : Catalogue) : Prop :=
  ∀ fileName, (∃ page ∈ left.pages, page.name.fileName = fileName) ↔
    ∃ page ∈ right.pages, page.name.fileName = fileName

/-- Under which paths a page is published depends on its file name alone. -/
theorem publishes_iff_of_fileName_eq {a b : PageName} (same : a.fileName = b.fileName) :
    Publishes a path ↔ Publishes b path := by
  rw [Publishes, Publishes, same, fileName_eq_iff.mp same]

theorem SameFileNames.symm {left right : Catalogue} (same : SameFileNames left right) :
    SameFileNames right left :=
  fun fileName => (same fileName).symm

/-- A name of one catalogue stands for a name of the other that is published like it. -/
theorem SameFileNames.exists_counterpart {left right : Catalogue} (same : SameFileNames left right)
    (member : page ∈ left.pages) :
    ∃ other ∈ right.pages, other.name.fileName = page.name.fileName :=
  (same page.name.fileName).mp ⟨page, member, rfl⟩

theorem SameFileNames.routes?_isSome {left right : Site}
    (same : SameFileNames left.catalogue right.catalogue) (built : left.routes?.isSome) :
    right.routes?.isSome := by
  rw [routes?_isSome_iff] at built ⊢
  intro page member
  obtain ⟨other, otherMember, named⟩ := same.symm.exists_counterpart member
  rw [← named]
  exact built other otherMember

theorem SameFileNames.untaken {left right : Site}
    (same : SameFileNames left.catalogue right.catalogue) (built : left.routes? = some routes)
    (otherBuilt : right.routes? = some others) (untaken : routeAt? routes path = none) :
    routeAt? others path = none := by
  rw [untaken_iff_unpublished built] at untaken
  rw [untaken_iff_unpublished otherBuilt]
  intro page member publishes
  obtain ⟨other, otherMember, named⟩ := same.symm.exists_counterpart member
  exact untaken other otherMember ((publishes_iff_of_fileName_eq named).mpr publishes)

/-- Neither side leaks into the other. Where the fragments read alike, files make no difference to
any request that is dispatched to a page, down to what is fetched for it. Where the pages have the
same file names, nothing else about the site makes a difference to any other request: the same paths
are left to the files, which answer alike, and nothing is fetched. -/
theorem pages_and_files_do_not_leak [MediaTypes] :
    (∀ (site : Site) (routes : List Route) (source : Source) (left right : FileTree),
      site.routes? = some routes → ReadAlike left right headerFile →
      ReadAlike left right footerFile →
      ∀ request route, routeAt? routes request.uri.path = some route →
        site.respond routes left source request = site.respond routes right source request) ∧
    (∀ (left right : Site) (routes : List Route), left.routes? = some routes →
      SameFileNames left.catalogue right.catalogue →
      ∃ others, right.routes? = some others ∧
        (∀ path, routeAt? routes path = none ↔ routeAt? others path = none) ∧
        ∀ files leftSource rightSource request, routeAt? routes request.uri.path = none →
          left.respond routes files leftSource request =
            right.respond others files rightSource request ∧
          (left.respond routes files leftSource request).2 = []) := by
  constructor
  · intro site routes source left right _ headers footers request route taken
    have same : Fragments.load left = Fragments.load right := by
      rw [Fragments.load, Fragments.load, readAlike_iff.mp headers, readAlike_iff.mp footers]
    exact respond_eq_of_load_eq same taken source
  · intro left right routes built same
    obtain ⟨others, otherBuilt⟩ :=
      Option.isSome_iff_exists.mp (same.routes?_isSome (Option.isSome_iff_exists.mpr ⟨_, built⟩))
    have alike : ∀ path, routeAt? routes path = none ↔ routeAt? others path = none :=
      fun _ => ⟨same.untaken built otherBuilt, same.symm.untaken otherBuilt built⟩
    refine ⟨others, otherBuilt, alike, ?_⟩
    intro files leftSource rightSource request untaken
    rw [respond_file untaken, respond_file ((alike _).mp untaken)]
    exact ⟨rfl, rfl⟩

/-- A site with one page, whose name leaves the ending out. -/
def leaflet : Site where
  layout := bareLayout
  catalogue := ⟨[⟨⟨"a", by decide, by decide⟩, "", "u", none, false⟩], by decide⟩

/-- Another site with a page of the same file name. -/
def poster : Site where
  layout := ⟨⟨[⟨⟨"b", by decide, by decide⟩, "B"⟩], by decide⟩, .emphasized, true⟩
  catalogue := ⟨[⟨⟨"a.html", by decide, by decide⟩, "A", "v", some "f()", true⟩], by decide⟩

/-- A header that is a directory reads like one that is no text, and a page is the same with either;
a file of the page's own name is the same behind either site. -/
theorem directory_reads_like_garbled_header :
    let left : FileTree := .directory [("Header.html", .empty)]
    let right : FileTree := .directory [("Header.html", .file [0xFF]), ("a", .file [])]
    let source : Source := ⟨fun url => .ok url⟩
    let silent : Source := ⟨fun _ => .error .breakdown⟩
    let page : Request := ⟨.head, ⟨none, none, "/a.html".toList, none⟩⟩
    let file : Request := ⟨.get, ⟨none, none, "/a".toList, none⟩⟩
    ∃ routes others, leaflet.routes? = some routes ∧ poster.routes? = some others ∧
      leaflet.respond routes left source page = leaflet.respond routes right source page ∧
      leaflet.respond routes right source file = poster.respond others right silent file := by
  intro left right source silent page file
  have taken : (leaflet.routes?.map fun routes =>
      ((routeAt? routes page.uri.path).isSome, routeAt? routes file.uri.path)) =
        some (true, none) := by decide
  obtain ⟨routes, built, paths⟩ := Option.map_eq_some_iff.mp taken
  obtain ⟨pageTaken, fileUntaken⟩ := Prod.mk.inj paths
  obtain ⟨route, dispatched⟩ := Option.isSome_iff_exists.mp pageTaken
  have headers : ReadAlike left right headerFile :=
    ⟨[], .directory rfl, .garbled rfl (by decide)⟩
  have footers : ReadAlike left right footerFile := ⟨[], .missing rfl, .missing rfl⟩
  have names : SameFileNames leaflet.catalogue poster.catalogue := by
    simp only [SameFileNames, leaflet, poster, List.mem_singleton, exists_eq_left]
    intro fileName
    rw [show PageName.fileName ⟨"a", by decide, by decide⟩ =
      PageName.fileName ⟨"a.html", by decide, by decide⟩ by decide]
  have apart := pages_and_files_do_not_leak
  obtain ⟨others, otherBuilt, _, alike⟩ := apart.2 leaflet poster routes built names
  exact ⟨routes, others, built, otherBuilt,
    apart.1 leaflet routes source left right built headers footers page route dispatched,
    (alike right source silent file fileUntaken).1⟩

end Handbook.Separation
