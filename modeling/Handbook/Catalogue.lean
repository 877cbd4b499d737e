import Handbook.Listing
import Handbook.Settings

/-! The pages that the site publishes. A catalogue finds a page by its name or by its file name. -/
namespace Handbook

/-- A page: its name, and what it shows. -/
structure Page where
  name : PageName
  title : String
  source : String
  onLoad : Option String
  ribbon : Bool
  deriving DecidableEq

/-- Pages in a fixed order, no two of them with one stem (`PageSet`). -/
structure Catalogue where
  pages : List Page
  distinct : Distinct (pages.map Page.name)

namespace Catalogue

/-- The catalogue of the given pages, unless a stem repeats (`PageSet::new`). -/
def ofPages (pages : List Page) : Except NameError Catalogue := do
  let ⟨distinct⟩ ← Listing.catalogue.distinct (pages.map Page.name)
  return ⟨pages, distinct⟩

/-- The page that a text names (`PageSet::get`): the one with the stem of that name. -/
def find? (catalogue : Catalogue) (text : String) : Option Page :=
  match PageName.ofString? text with
  | some name => catalogue.pages.find? fun page => page.name.stem == name.stem
  | none => none

end Catalogue

end Handbook
