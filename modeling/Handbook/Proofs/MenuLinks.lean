import Handbook.Proofs.UrlSpace

/-! Links of the menu. An entry is marked on the page whose stem it shares, but it links to its name
as that name is written, while a page is published with its ending. The two meet exactly for the
entries that carry the ending themselves. -/
namespace Handbook.MenuLinks
open Http PageNames Catalogues Routing UrlSpace

/-- The path that a link of the menu asks for, taken from the root of the site: the link without its
leading dot. -/
def linkPath (entry : MenuEntry) : List Char := entry.name.href.toList.drop 1

/-- A name that carries the page ending behind something. -/
def WrittenOut (name : PageName) : Prop :=
  pageEnding <:+ name.text.toList ∧ name.text.toList ≠ pageEnding

theorem linkPath_eq (entry : MenuEntry) : linkPath entry = '/' :: entry.name.text.toList := by
  simp [linkPath, PageName.href]

/-- A name reads like the file name of a page exactly when it is written out and means that page. -/
theorem text_eq_fileName_iff {name other : PageName} :
    name.text = other.fileName ↔ WrittenOut name ∧ name.stem = other.stem := by
  rw [← String.toList_inj, ← String.toList_inj, toList_fileName, toList_stem, toList_stem]
  constructor
  · intro same
    have nonempty := stemOf_ne_nil (text_toList_ne_nil other)
    refine ⟨⟨⟨_, same.symm⟩, ?_⟩, ?_⟩
    · intro bare
      rw [bare] at same
      exact nonempty (List.append_left_eq_self.mp same.symm)
    · rw [same, stemOf_append_ending nonempty]
  · rintro ⟨⟨⟨body, written⟩, more⟩, same⟩
    have nonempty : body ≠ [] := by
      rintro rfl
      exact more written.symm
    rw [← same, ← written, stemOf_append_ending nonempty]

/-- A link asks for a path of a page exactly when its name is written out and means that page. -/
theorem ownPath_linkPath_iff : OwnPath name (linkPath entry) ↔
    WrittenOut entry.name ∧ entry.name.stem = name.stem := by
  rw [← text_eq_fileName_iff, linkPath_eq, OwnPath]
  constructor
  · rintro (same | ⟨root, _⟩)
    · exact String.toList_inj.mp (List.cons.inj same).2
    · exact absurd (List.cons.inj root).2 (text_toList_ne_nil entry.name)
  · rintro same
    rw [same]
    exact .inl rfl

/-- Where the names of the pages are unreserved, the link of an entry leads to the page on which the
entry is marked exactly when the entry is written out. Otherwise it leads to no page at all, and the
request is left to the files. -/
theorem menu_link_reaches_marked_page_iff_written_out (layout : Layout) {pages : List Page}
    {catalogue : Catalogue} (accepted : Catalogue.ofPages pages = .ok catalogue)
    (unreserved : ∀ page ∈ pages, Unreserved page.name) :
    ∃ routes, (Site.mk layout catalogue).routes? = some routes ∧
      ∀ entry ∈ layout.menu.entries, ∀ page ∈ pages, entry.isActive page.name.stem = true →
        (nameAt? routes (linkPath entry) = some page.name ↔ WrittenOut entry.name) ∧
        (routeAt? routes (linkPath entry) = none ↔ ¬WrittenOut entry.name) := by
  obtain rfl := ofPages_eq_ok_iff.mp accepted
  obtain ⟨routes, built⟩ := unreserved_routes ⟨layout, catalogue⟩ unreserved
  have laid := routes?_laid built
  refine ⟨routes, built, ?_⟩
  intro entry _ page member marked
  have same : entry.name.stem = page.name.stem := beq_iff_eq.mp marked
  have links : ∀ other ∈ catalogue.pages, Publishes other.name (linkPath entry) ↔
      WrittenOut entry.name ∧ entry.name.stem = other.name.stem := by
    intro other otherMember
    rw [publishes_iff_ownPath (unreserved other otherMember), ownPath_linkPath_iff]
  constructor
  · rw [nameAt?_eq_some_iff laid, links page member]
    exact ⟨fun dispatched => dispatched.2.1,
      fun written => ⟨List.mem_map_of_mem member, written, same⟩⟩
  · rw [routeAt?_eq_none_iff laid, List.forall_mem_map]
    constructor
    · intro untaken written
      exact untaken page member ((links page member).mpr ⟨written, same⟩)
    · intro short other otherMember publishes
      exact short ((links other otherMember).mp publishes).1

/-- An entry with two endings leads to the page whose name is nothing but the first of them. -/
theorem stacked_ending_link_reaches_bare_page :
    let entry : MenuEntry := ⟨⟨".html.html", by decide, by decide⟩, "Endings"⟩
    let page : Page := ⟨⟨".html", by decide, by decide⟩, "", "", none, false⟩
    let layout : Layout := ⟨⟨[entry], by decide⟩, .plain, false⟩
    let catalogue : Catalogue := ⟨[page], by decide⟩
    ∃ routes, (Site.mk layout catalogue).routes? = some routes ∧ Unreserved page.name ∧
      entry.isActive page.name.stem = true ∧ nameAt? routes (linkPath entry) = some page.name := by
  intro entry page layout catalogue
  have plain : Unreserved page.name := by
    unfold Unreserved
    decide
  have marked : entry.isActive page.name.stem = true := by decide
  have written : WrittenOut entry.name := ⟨by decide, by decide⟩
  have accepted : Catalogue.ofPages [page] = .ok catalogue := ofPages_eq_ok_iff.mpr rfl
  obtain ⟨routes, built, links⟩ := menu_link_reaches_marked_page_iff_written_out layout accepted
    (List.forall_mem_singleton.mpr plain)
  have leads := links entry (List.mem_singleton.mpr rfl) page (List.mem_singleton.mpr rfl) marked
  exact ⟨routes, built, plain, marked, leads.1.mpr written⟩

/-- An entry that leaves the ending out is marked on its page, but its link leads to no page. -/
theorem bare_menu_link_reaches_no_page :
    ∃ (site : Site) (routes : List Route), ∃ entry ∈ site.layout.menu.entries,
      ∃ page ∈ site.catalogue.pages, (∀ other ∈ site.catalogue.pages, Unreserved other.name) ∧
        Unreserved entry.name ∧ site.routes? = some routes ∧
        entry.isActive page.name.stem = true ∧ routeAt? routes (linkPath entry) = none := by
  let entry : MenuEntry := ⟨⟨"install", by decide, by decide⟩, "Installation"⟩
  let page : Page := ⟨⟨"install", by decide, by decide⟩, "", "", none, false⟩
  let site : Site := ⟨⟨⟨[entry], by decide⟩, .plain, false⟩, ⟨[page], by decide⟩⟩
  have untaken : (site.routes?.map fun routes => routeAt? routes (linkPath entry)) = some none := by
    decide
  obtain ⟨routes, built, none⟩ := Option.map_eq_some_iff.mp untaken
  have unreserved : ∀ other ∈ site.catalogue.pages, Unreserved other.name := by
    simp only [site, List.forall_mem_singleton, Unreserved]
    decide
  have plain : Unreserved entry.name := by
    unfold Unreserved
    decide
  exact ⟨site, routes, entry, List.mem_singleton.mpr rfl, page, List.mem_singleton.mpr rfl,
    unreserved, plain, built, by decide, none⟩

end Handbook.MenuLinks
