import Handbook.Catalogue
import Handbook.Fragments
import Handbook.Layout
import Handbook.Source

/-! Putting a page together: its document is fetched once and set into the layout of the site. -/
namespace Handbook

/-- What a page has around its content. -/
def Page.chrome (page : Page) (fragments : Fragments) : Chrome where
  title := page.title
  onLoad := page.onLoad
  ribbon := page.ribbon
  header := fragments.header
  footer := fragments.footer

/-- The page around its content, with its own line of the menu marked. -/
def Layout.present (layout : Layout) (page : Page) (fragments : Fragments) (content : Markup) :
    Markup :=
  layout.page page.name.stem (page.chrome fragments) content

/-- Fetches the document of a page and shows it (`render_page`). -/
def Layout.assemble (layout : Layout) (page : Page) (fragments : Fragments) (source : Source) :
    Fetching Markup := do
  return layout.present page fragments (← source.fetchHtml page.source)

end Handbook
