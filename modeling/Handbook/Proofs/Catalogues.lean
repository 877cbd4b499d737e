import Handbook.Catalogue
import Handbook.Proofs.PageNames
import Mathlib.Data.List.Nodup

/-! Catalogues as seen through their lookup. The stems of a catalogue differ, so the first page that
fits is the only one, and nothing that a lookup finds depends on the order of the pages. A page is
found by its file name, and by its stem where no ending is dropped from that. -/
namespace Handbook.Catalogues
open PageNames

/-- Where the keys differ, a search for a key finds the one entry that has it. -/
theorem find?_key_eq_some_iff [BEq β] [LawfulBEq β] {entries : List α} {key : α → β}
    (apart : (entries.map key).Nodup) :
    entries.find? (fun entry => key entry == wanted) = some entry ↔
      entry ∈ entries ∧ key entry = wanted := by
  constructor
  · intro found
    exact ⟨List.mem_of_find?_eq_some found, by simpa using List.find?_some found⟩
  · rintro ⟨member, rfl⟩
    have fits : (entries.find? fun other => key other == key entry).isSome :=
      List.find?_isSome.mpr ⟨entry, member, beq_self_eq_true _⟩
    obtain ⟨other, found⟩ := Option.isSome_iff_exists.mp fits
    have same : key other = key entry := by simpa using List.find?_some found
    have equal : other = entry :=
      List.inj_on_of_nodup_map apart (List.mem_of_find?_eq_some found) member same
    rwa [equal] at found

/-- Entries whose names are distinct have stems of their own. -/
theorem nodup_of_distinct {name : α → PageName} {entries : List α}
    (distinct : Distinct (entries.map name)) :
    (entries.map fun entry => (name entry).stem).Nodup := by
  simpa [Distinct, Function.comp_def] using distinct

theorem stems_nodup (catalogue : Catalogue) :
    (catalogue.pages.map fun page => page.name.stem).Nodup :=
  nodup_of_distinct catalogue.distinct

/-- A stem belongs to one page of a catalogue. -/
theorem eq_of_stem_eq {catalogue : Catalogue} (member : page ∈ catalogue.pages)
    (otherMember : other ∈ catalogue.pages) (same : page.name.stem = other.name.stem) :
    page = other :=
  List.inj_on_of_nodup_map (stems_nodup catalogue) member otherMember same

/-- A lookup finds the page with the stem of the name that was asked for. -/
theorem find?_eq_some_iff {catalogue : Catalogue} :
    catalogue.find? text = some page ↔
      page ∈ catalogue.pages ∧
        ∃ name : PageName, text = name.text ∧ page.name.stem = name.stem := by
  unfold Catalogue.find?
  cases read : PageName.ofString? text with
  | none =>
    simp only [reduceCtorEq, false_iff]
    rintro ⟨_, name, written, _⟩
    rw [ofString?_eq_some_iff.mpr written] at read
    cases read
  | some name =>
    have written := ofString?_eq_some_iff.mp read
    rw [find?_key_eq_some_iff (stems_nodup catalogue)]
    constructor
    · rintro ⟨member, same⟩
      exact ⟨member, name, written, same⟩
    · rintro ⟨member, other, otherWritten, same⟩
      rw [eq_of_text_eq (written.symm.trans otherWritten)]
      exact ⟨member, same⟩

/-- Whatever its spelling, the name of a page leads back to that page. -/
theorem find?_name_text {catalogue : Catalogue} (member : page ∈ catalogue.pages) :
    catalogue.find? page.name.text = some page :=
  find?_eq_some_iff.mpr ⟨member, page.name, rfl, rfl⟩

/-- A text with an ending behind something finds the page that is published under it. -/
theorem find?_eq_some_iff_fileName {catalogue : Catalogue} (nonempty : body ≠ [])
    (ends : text.toList = body ++ pageEnding) :
    catalogue.find? text = some page ↔ page ∈ catalogue.pages ∧ page.name.fileName = text := by
  rw [find?_eq_some_iff, and_congr_right_iff]
  intro _
  constructor
  · rintro ⟨name, rfl, same⟩
    apply String.toList_inj.mp
    rw [toList_fileName, ← toList_stem, same, toList_stem, ends, stemOf_append_ending nonempty]
  · rintro rfl
    obtain ⟨file, written, same⟩ := exists_name_of_fileName page.name
    exact ⟨file, written.symm, same.symm⟩

/-! ## Lists of pages that are accepted -/

theorem bind_eq_ok_iff {first : Except ε α} {next : α → Except ε β} :
    (first >>= next) = .ok value ↔ ∃ middle, first = .ok middle ∧ next middle = .ok value := by
  cases first with
  | error error => simp [bind, Except.bind]
  | ok middle => simp [bind, Except.bind]

theorem bind_eq_error_iff {first : Except ε α} {next : α → Except ε β} :
    (first >>= next) = .error error ↔
      first = .error error ∨ ∃ middle, first = .ok middle ∧ next middle = .error error := by
  cases first with
  | error error => simp [bind, Except.bind]
  | ok middle => simp [bind, Except.bind]

/-- Names with different stems pass every listing. -/
theorem exists_distinct_eq_ok (listing : Listing) (distinct : Distinct names) :
    ∃ evidence, listing.distinct names = .ok evidence := by
  unfold Listing.distinct
  split
  · rename_i name repeated
    rw [firstRepeat?_eq_none_iff.mpr distinct] at repeated
    cases repeated
  · exact ⟨_, rfl⟩

/-- A list of pages is accepted as the catalogue that holds these pages in this order. -/
theorem ofPages_eq_ok_iff {catalogue : Catalogue} :
    Catalogue.ofPages pages = .ok catalogue ↔ catalogue.pages = pages := by
  rw [Catalogue.ofPages, bind_eq_ok_iff]
  constructor
  · rintro ⟨evidence, _, accepted⟩
    cases accepted
    rfl
  · rintro rfl
    obtain ⟨evidence, passed⟩ := exists_distinct_eq_ok .catalogue catalogue.distinct
    exact ⟨evidence, passed, rfl⟩

/-! ## Which texts lead to a page -/

/-- The texts that name the page with a given stem: its file name always, and the stem unless reading
it drops an ending once more. -/
def Names (text stem : String) : Prop :=
  text = stem ++ ".html" ∨ text = stem ∧ (¬pageEnding <:+ stem.toList ∨ stem = ".html")

theorem fileName_eq (name : PageName) : name.fileName = name.stem ++ ".html" := by
  simp [PageName.fileName, pageEnding]

/-- A text names a page exactly when it is a name with the stem of that page. -/
theorem names_stem_iff {name : PageName} :
    Names text name.stem ↔ ∃ other : PageName, text = other.text ∧ name.stem = other.stem := by
  have bare : name.stem = ".html" ↔ name.stem.toList = pageEnding := String.toList_inj.symm
  rw [Names, bare, ← stemOf_eq_self_iff, ← fileName_eq]
  constructor
  · rintro (rfl | ⟨rfl, kept⟩)
    · obtain ⟨file, written, same⟩ := exists_name_of_fileName name
      exact ⟨file, written.symm, same.symm⟩
    · obtain ⟨other, written⟩ := exists_name_of_stem name
      refine ⟨other, written.symm, String.toList_inj.mp ?_⟩
      rw [toList_stem other, written, kept]
  · rintro ⟨other, rfl, same⟩
    rcases stemOf_cases other.text.toList with ⟨_, written⟩ | kept
    · refine .inl (String.toList_inj.mp ?_)
      rw [fileName_eq, same, ← fileName_eq, toList_fileName]
      exact written
    · have text : name.stem.toList = other.text.toList := by rw [same, toList_stem, kept]
      exact .inr ⟨String.toList_inj.mp text.symm, by rw [text, kept]⟩

/-- A text names pages of one stem only. -/
theorem stem_eq_of_names {a b : PageName} (named : Names text a.stem)
    (otherNamed : Names text b.stem) : a.stem = b.stem := by
  obtain ⟨name, written, same⟩ := names_stem_iff.mp named
  obtain ⟨other, otherWritten, otherSame⟩ := names_stem_iff.mp otherNamed
  rw [same, otherSame, eq_of_text_eq (written.symm.trans otherWritten)]

/-- A lookup finds the page that a text names. -/
theorem find?_eq_some_iff_names {catalogue : Catalogue} :
    catalogue.find? text = some page ↔ page ∈ catalogue.pages ∧ Names text page.name.stem := by
  rw [find?_eq_some_iff, names_stem_iff]

/-- The same pages in another order make a catalogue as well. -/
theorem exists_reordered {catalogue : Catalogue} (permuted : pages.Perm catalogue.pages) :
    ∃ other, Catalogue.ofPages pages = .ok other := by
  have distinct : Distinct (pages.map Page.name) :=
    ((permuted.map Page.name).map PageName.stem).nodup_iff.mpr catalogue.distinct
  exact ⟨⟨pages, distinct⟩, ofPages_eq_ok_iff.mpr rfl⟩

/-- Which pages a catalogue has decides what it finds; in which order it has them does not. -/
theorem find?_eq_of_same_pages {left right : Catalogue}
    (same : ∀ page, page ∈ left.pages ↔ page ∈ right.pages) (text : String) :
    left.find? text = right.find? text := by
  ext page
  rw [find?_eq_some_iff_names, find?_eq_some_iff_names, same]

/-- What a catalogue finds for any text. -/
structure Resolves (catalogue : Catalogue) : Prop where
  /-- A page is found exactly under the texts that name it. -/
  found : ∀ text page, catalogue.find? text = some page ↔
    page ∈ catalogue.pages ∧ Names text page.name.stem
  /-- No text names two pages. -/
  alone : ∀ page ∈ catalogue.pages, ∀ other ∈ catalogue.pages, ∀ text,
    Names text page.name.stem → Names text other.name.stem → page = other
  /-- The same pages in another order are found under the same texts. -/
  reordered : ∀ pages : List Page, pages.Perm catalogue.pages →
    ∃ other, Catalogue.ofPages pages = .ok other ∧
      ∀ text, other.find? text = catalogue.find? text
  /-- Every page is found under its name as it is written, and under its file name. -/
  own : ∀ page ∈ catalogue.pages, catalogue.find? page.name.text = some page ∧
    catalogue.find? page.name.fileName = some page
  /-- A stem that carries an ending itself finds the page without that ending, if there is one, and
  never the page whose stem it is. -/
  stacked : ∀ page ∈ catalogue.pages, ∀ shorter, shorter ≠ "" →
    page.name.stem = shorter ++ ".html" →
    catalogue.find? page.name.stem ≠ some page ∧
    ∀ other, catalogue.find? page.name.stem = some other ↔
      other ∈ catalogue.pages ∧ other.name.stem = shorter

/-- The pages of an accepted list are found under their names and nowhere else, in whatever order they
are listed. -/
theorem lookup_finds_exactly_what_is_named {pages : List Page} {catalogue : Catalogue}
    (accepted : Catalogue.ofPages pages = .ok catalogue) :
    catalogue.pages = pages ∧ Resolves catalogue := by
  refine ⟨ofPages_eq_ok_iff.mp accepted, fun _ _ => find?_eq_some_iff_names, ?_, ?_, ?_, ?_⟩
  · intro page member other otherMember text named otherNamed
    have found := find?_eq_some_iff_names.mpr ⟨member, named⟩
    rw [find?_eq_some_iff_names.mpr ⟨otherMember, otherNamed⟩] at found
    exact (Option.some.inj found).symm
  · intro others permuted
    obtain ⟨other, accepted⟩ := exists_reordered permuted
    refine ⟨other, accepted, find?_eq_of_same_pages fun page => ?_⟩
    rw [ofPages_eq_ok_iff.mp accepted, permuted.mem_iff]
  · intro page member
    exact ⟨find?_name_text member,
      find?_eq_some_iff_names.mpr ⟨member, .inl (fileName_eq page.name)⟩⟩
  · intro page _ shorter nonempty ends
    have body : shorter.toList ≠ [] := fun empty => nonempty (String.toList_eq_nil_iff.mp empty)
    have others : ∀ other, catalogue.find? page.name.stem = some other ↔
        other ∈ catalogue.pages ∧ other.name.stem = shorter := by
      intro other
      rw [find?_eq_some_iff_fileName body (by rw [ends, String.toList_append]; rfl), fileName_eq,
        ends, String.append_left_inj]
    refine ⟨?_, others⟩
    intro own
    obtain ⟨_, same⟩ := (others page).mp own
    rw [same] at ends
    exact absurd (String.append_eq_left_iff.mp ends.symm) (by decide)

/-- A page with two endings in its name leaves its stem to the page that has one of them, and the name
that is nothing but an ending is found with one ending and with two. -/
theorem stacked_ending_leaves_its_stem :
    let stacked : Page := ⟨⟨"a.html.html", by decide, by decide⟩, "", "", none, false⟩
    let bare : Page := ⟨⟨"a", by decide, by decide⟩, "", "", none, false⟩
    let ending : Page := ⟨⟨".html", by decide, by decide⟩, "", "", none, false⟩
    ∃ catalogue, Catalogue.ofPages [stacked, bare, ending] = .ok catalogue ∧
      catalogue.find? "a.html" = some bare ∧ catalogue.find? "a.html.html" = some stacked ∧
      catalogue.find? ".html" = some ending ∧ catalogue.find? ".html.html" = some ending := by
  intro stacked bare ending
  have accepted : Catalogue.ofPages [stacked, bare, ending] =
      .ok ⟨[stacked, bare, ending], by decide⟩ := ofPages_eq_ok_iff.mpr rfl
  obtain ⟨_, resolves⟩ := lookup_finds_exactly_what_is_named accepted
  refine ⟨_, accepted, ?_, ?_, ?_, ?_⟩
  · exact (resolves.found _ bare).mpr ⟨by decide, .inl (by decide)⟩
  · exact (resolves.found _ stacked).mpr ⟨by decide, .inl (by decide)⟩
  · exact (resolves.found _ ending).mpr ⟨by decide, .inr (by decide)⟩
  · exact (resolves.found _ ending).mpr ⟨by decide, .inl (by decide)⟩

end Handbook.Catalogues
