import Handbook.Proofs.Catalogues

/-! File names as the canonical spelling of names. Names of one page are written in several ways, and
its file name is the one to which all of them lead: it reads as a name, changes no more when it is read
as one, and differs where pages differ. A stem reads as a name too, but may stand for another page. -/
namespace Handbook.FileNames
open PageNames Catalogues

/-- What the file name and the stem of a name are as names themselves. -/
structure Canonical (name : PageName) : Prop where
  /-- The file name is a name, with the same stem and the same file name. -/
  file : ∃ file, PageName.ofString? name.fileName = some file ∧
    file.stem = name.stem ∧ file.fileName = name.fileName
  /-- The stem is a name, which is its own stem unless an ending stands behind something in it. -/
  bare : ∃ bare, PageName.ofString? name.stem = some bare ∧
    (bare.stem = name.stem ↔ ¬".html".toList <:+ name.stem.toList ∨ name.stem = ".html")

theorem canonical (name : PageName) : Canonical name where
  file := by
    obtain ⟨file, written, same⟩ := exists_name_of_fileName name
    exact ⟨file, ofString?_eq_some_iff.mpr written.symm, same, fileName_eq_iff.mpr same⟩
  bare := by
    obtain ⟨bare, written⟩ := exists_name_of_stem name
    refine ⟨bare, ofString?_eq_some_iff.mpr written.symm, ?_⟩
    have ending : name.stem = ".html" ↔ name.stem.toList = pageEnding := String.toList_inj.symm
    rw [ending, ← String.toList_inj, toList_stem bare, written]
    exact stemOf_eq_self_iff

/-- Pages have file names of their own exactly where they have stems of their own. -/
theorem nodup_fileNames_iff {pages : List Page} :
    (pages.map fun page => page.name.fileName).Nodup ↔ Distinct (pages.map Page.name) := by
  simp only [Distinct, List.map_map, List.Nodup, List.pairwise_map, Function.comp_apply, ne_eq,
    fileName_eq_iff]

/-- File names are canonical: each reads back as a name of the page that it publishes, two names have
one exactly if they have one stem, and a list of pages is accepted exactly if no two of them would be
published under one file name. -/
theorem file_names_are_canonical :
    (∀ name, Canonical name) ∧
    (∀ a b : PageName, a.fileName = b.fileName ↔ a.stem = b.stem) ∧
    ∀ pages, (∃ catalogue, Catalogue.ofPages pages = .ok catalogue ∧ catalogue.pages = pages) ↔
      (pages.map fun page => page.name.fileName).Nodup := by
  refine ⟨canonical, fun a b => fileName_eq_iff, ?_⟩
  intro pages
  rw [nodup_fileNames_iff]
  constructor
  · rintro ⟨catalogue, _, rfl⟩
    exact catalogue.distinct
  · intro distinct
    exact ⟨⟨pages, distinct⟩, ofPages_eq_ok_iff.mpr rfl, rfl⟩

/-- A name with two endings has a stem that leads elsewhere, and its file name leads back to it. -/
example :
    let name : PageName := ⟨"a.html.html", by decide, by decide⟩
    name.stem = "a.html" ∧ (PageName.ofString? name.stem).map PageName.stem = some "a" ∧
      (PageName.ofString? name.fileName).map PageName.stem = some "a.html" := by decide

end Handbook.FileNames
