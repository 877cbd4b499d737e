import Handbook.Assets
import Handbook.Menu
import Handbook.Skeleton

/-! The layout of the site: menu, assets and ribbon around the content of a page. -/
namespace Handbook

/-- What every page has around its content (`SiteShell`). The ribbon shows only where the page asks for
it too. -/
structure Layout where
  menu : Menu
  linkStyle : LinkStyle
  ribbon : Bool

/-- What one page has around its content. -/
structure Chrome where
  title : String
  onLoad : Option String
  ribbon : Bool
  header : Markup
  footer : Markup

/-- The page with the stem `active` around its content (`SiteShell::render_page`). -/
def Layout.page (layout : Layout) (active : String) (chrome : Chrome) (content : Markup) : Markup :=
  Parts.html
    { title := chrome.title
      onLoad := chrome.onLoad
      headAssets := headAssets
      ribbon := if layout.ribbon && chrome.ribbon then some forkRibbon else none
      header := chrome.header
      menu := layout.menu.html active layout.linkStyle
      content := content
      footer := chrome.footer
      footAssets := footAssets }

end Handbook
