import Handbook.Listing

/-! What this site is: its title and repository, where its documents come from, and the defaults of
its server. -/
namespace Handbook

/-- The title of the site. -/
def siteTitle : String := "Mechanic"

/-- The repository that the ribbon leads to. -/
def siteRepository : String := "https://github.com/mslonina/Mechanic"

/-- The place under which the documents of the pages lie. -/
def defaultContentBase : String := "https://raw.github.com/mslonina/Mechanic/2.x"

/-- The file with the markup above the menu. -/
def headerFile : String := "Header.html"

/-- The file with the markup below the content. -/
def footerFile : String := "Footer.html"

/-- Where the server listens unless it is told otherwise. -/
def defaultAddress : String := "0.0.0.0:3000"

/-- How many seconds a fetch may take unless the program is told otherwise. -/
def defaultTimeout : Nat := 30

/-- The name of the program. -/
def programName : String := "docshell"

/-- The version of the program. -/
def programVersion : String := "0.1.0"

/-- How the program names itself when it fetches a document. -/
def userAgent : String := programName ++ "/" ++ programVersion

/-- A text without the slashes at its end. -/
def dropLastSlashes (cs : List Char) : List Char := (cs.reverse.dropWhile (· == '/')).reverse

/-- A text without the slashes at its start. -/
def dropFirstSlashes (cs : List Char) : List Char := cs.dropWhile (· == '/')

/-- What the pages of a site have in common. -/
structure SiteMeta where
  title : String
  contentBase : String
  deriving DecidableEq, Repr

namespace SiteMeta

/-- The site with its documents under the given base, whose last slashes do not count. `site_meta` is
this at the base of the site. -/
def ofBase (base : String) : SiteMeta :=
  ⟨siteTitle, String.ofList (dropLastSlashes base.toList)⟩

/-- The site as it is published. -/
def standard : SiteMeta := ofBase defaultContentBase

/-- Where the document with the given path lies (`SiteMeta::content_url`). The base stands as it is; the
first slashes of the path do not count. -/
def documentUrl (site : SiteMeta) (path : String) : String :=
  site.contentBase ++ "/" ++ String.ofList (dropFirstSlashes path.toList)

end SiteMeta

end Handbook
