import Handbook.Listing
import Handbook.Markup

/-! The menu of the site: links in a fixed order, at most one of them marked as the page shown. An
entry is marked by its stem, so the stems of a menu differ from each other. -/
namespace Handbook

/-- How a link of the menu is written. -/
inductive LinkStyle where
  | plain
  | emphasized
  deriving DecidableEq, Repr

/-- A line of the menu (`NavEntry`): the page it leads to and the text it shows. -/
structure MenuEntry where
  name : PageName
  label : String
  deriving DecidableEq

namespace MenuEntry

/-- Whether the entry leads to the page with the given stem (`NavEntry::is_active`). -/
def isActive (entry : MenuEntry) (active : String) : Bool := entry.name.stem == active

/-- The link, marked on the page it leads to (`nav_link`). -/
def link (entry : MenuEntry) (active : String) : Markup :=
  .element "a"
    (("href", entry.name.href) :: if entry.isActive active then [("class", "active")] else [])
    (.text entry.label)

/-- The list item of the entry. -/
def html (entry : MenuEntry) (active : String) : LinkStyle → Markup
  | .plain => .element "li" [] (entry.link active)
  | .emphasized => .element "li" [] (.element "strong" [] (entry.link active))

end MenuEntry

/-- Entries in the order in which they are shown, no two of them with one stem (`NavTable`). -/
structure Menu where
  entries : List MenuEntry
  distinct : Distinct (entries.map MenuEntry.name)

namespace Menu

/-- The menu with the given entries, unless a stem repeats (`NavTable::new`). -/
def ofEntries (entries : List MenuEntry) : Except NameError Menu := do
  let ⟨distinct⟩ ← Listing.menu.distinct (entries.map MenuEntry.name)
  return ⟨entries, distinct⟩

/-- Reads one entry (`NavEntry::new`). -/
def entry (name label : String) : Except NameError MenuEntry := do
  return ⟨← Listing.menu.name name, label⟩

/-- The menu of names and labels (`NavTable::from_pairs`). An invalid name is reported before a
repeated one. -/
def ofPairs (pairs : List (String × String)) : Except NameError Menu := do
  ofEntries (← pairs.mapM fun (name, label) => entry name label)

/-- The list of links, as it stands on the page with the stem `active` (`render_nav`). -/
def html (menu : Menu) (active : String) (style : LinkStyle) : Markup :=
  .element "ul" [] (menu.entries.flatMap fun entry => entry.html active style)

end Menu

end Handbook
