import Handbook.Markup

/-! The skeleton of a page. Title and load hook are texts and are escaped; every other part is
markup and stands in the page as it is. -/
namespace Handbook

/-- The parts of a page (`PageParts`). -/
structure Parts where
  title : String
  onLoad : Option String
  headAssets : Markup
  ribbon : Option Markup
  header : Markup
  menu : Markup
  content : Markup
  footer : Markup
  footAssets : Markup

namespace Parts

/-- What browsers read before they show anything. -/
def head (parts : Parts) : Markup :=
  .element "head" [] <|
    .openTag "meta" [("charset", "utf-8")] ++
      .openTag "meta" [("http-equiv", "X-UA-Compatible"), ("content", "chrome=1")] ++
      .element "title" [] (.text parts.title) ++ parts.headAssets

/-- The part between ribbon and scripts, where the menu follows the header fragment. -/
def wrapper (parts : Parts) : Markup :=
  .element "div" [("class", "wrapper")] <|
    .element "header" [] (parts.header ++ parts.menu) ++
      .element "section" [] parts.content ++ .element "footer" [] parts.footer

/-- What browsers show. A load hook is an attribute, which an empty hook has and a missing one
lacks. -/
def body (parts : Parts) : Markup :=
  .element "body" (parts.onLoad.toList.map fun hook => ("onload", hook)) <|
    parts.ribbon.getD [] ++ parts.wrapper ++ parts.footAssets

/-- The whole page (`page_shell`). -/
def html (parts : Parts) : Markup :=
  "<!DOCTYPE html>".toList ++ .element "html" [] (parts.head ++ parts.body)

end Parts

end Handbook
