import Handbook.Catalogue
import Handbook.Http.CommonMediaTypes
import Handbook.Menu

/-! The menu and the pages of the site as it is published, and the media types of its files. -/
namespace Handbook

/-- The menu of the site (`NavTable::default_site`). -/
def Menu.standard : Menu where
  entries :=
    [⟨⟨"index.html", by decide, by decide⟩, "Overview"⟩,
      ⟨⟨"install.html", by decide, by decide⟩, "Installation"⟩,
      ⟨⟨"userguide.html", by decide, by decide⟩, "User guide"⟩]
  distinct := by decide

/-- A page of the site before it is known where its document lies. -/
structure PagePlan where
  name : PageName
  title : String
  document : String
  onLoad : Option String
  ribbon : Bool

/-- The page, with its document in its place. -/
def PagePlan.page (site : SiteMeta) (plan : PagePlan) : Page :=
  ⟨plan.name, plan.title, site.documentUrl plan.document, plan.onLoad, plan.ribbon⟩

/-- The pages of the site. -/
def standardPlans : List PagePlan :=
  [⟨⟨"index", by decide, by decide⟩, "Mechanic", "Overview.md", some "styleCode()", false⟩,
    ⟨⟨"install", by decide, by decide⟩, "Mechanic :: Installation", "INSTALL.md", none, true⟩,
    ⟨⟨"userguide", by decide, by decide⟩, "Mechanic :: The User guide", "examples/UserGuide.md",
      none, true⟩]

/-- The pages of the site, with their documents under the content base (`PageSet::default_site`). -/
def Catalogue.standard (site : SiteMeta) : Catalogue where
  pages := standardPlans.map (PagePlan.page site)
  distinct := by
    have distinct : Distinct (standardPlans.map PagePlan.name) := by decide
    simpa [Function.comp_def, PagePlan.page] using distinct

end Handbook
