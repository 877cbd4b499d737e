import Handbook.Text.Blank

/-! Names of pages. A name is one visible word without slashes, and it may carry the page ending or
leave it out: names with one stem mean one page. The file name of a page is its stem with the
ending. -/
namespace Handbook
open Text

/-- Whether a character may stand in the name of a page. -/
def isNameChar (c : Char) : Bool := !isBlank c && !isControl c && c != '/' && c != '\\'

/-- The ending under which pages are published. -/
def pageEnding : List Char := ".html".toList

/-- A text without one page ending. An ending with nothing before it stays. -/
def stemOf (cs : List Char) : List Char :=
  if pageEnding.isSuffixOf cs ∧ pageEnding.length < cs.length then
    cs.take (cs.length - pageEnding.length)
  else cs

/-- The name of a page (`PageId`): not empty, and made of name characters only. -/
structure PageName where
  text : String
  nonempty : text ≠ ""
  visible : text.toList.all isNameChar = true
  deriving DecidableEq

namespace PageName

/-- The name that a text is, if it is one (`PageId::parse`). -/
def ofString? (text : String) : Option PageName :=
  if nonempty : text ≠ "" then
    if visible : text.toList.all isNameChar = true then some ⟨text, nonempty, visible⟩ else none
  else none

/-- What identifies the page (`PageId::stem`): the name without one page ending. -/
def stem (name : PageName) : String := String.ofList (stemOf name.text.toList)

/-- The name of the file under which the page is published (`PageId::file_name`). -/
def fileName (name : PageName) : String := name.stem ++ String.ofList pageEnding

/-- The link to the page (`Href::to_page`), relative to the root of the site and in the words of the
name. -/
def href (name : PageName) : String := "./" ++ name.text

/-- Names are ordered by the code points of their texts. -/
instance : LE PageName := ⟨fun a b => a.text ≤ b.text⟩

instance (a b : PageName) : Decidable (a ≤ b) := inferInstanceAs (Decidable (a.text ≤ b.text))

/-- Every valid name among the given texts, once each and in order. -/
def sorted (texts : List String) : List PageName :=
  ((texts.filterMap ofString?).mergeSort fun a b => decide (a ≤ b)).eraseReps

end PageName

end Handbook
