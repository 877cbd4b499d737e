import Handbook.Proofs.MenuReading
import Handbook.Proofs.PageAnswers
import Handbook.Proofs.Skeletons

/-! Pages as they come out of a fetch. What is fetched reaches a page in one place only, and so does
the ribbon: everything else in it is written by the layout, the page and the fragments, in an order
that none of them can change. -/
namespace Handbook.Presentations
open Text Skeletons MenuReading PageAnswers

/-! ## A page in the order in which it is read -/

/-- The start tag of the body. A load hook is its one attribute, and without a hook it has none. -/
def bodyTag (onLoad : Option String) : Markup := "<body".toList ++ (hookAttr onLoad ++ ['>'])

/-- A quote in a load hook does not end its attribute. -/
example : bodyTag (some "say(\"hi\")") = "<body onload=\"say(&quot;hi&quot;)\">".toList := by decide

/-- A page up to the start tag of its body, which is the last of it. -/
def opening (page : Page) : Markup :=
  "<!DOCTYPE html>".toList ++ (.openTag "html" [] ++ (.openTag "head" [] ++
    (.openTag "meta" [("charset", "utf-8")] ++
      (.openTag "meta" [("http-equiv", "X-UA-Compatible"), ("content", "chrome=1")] ++
        (.openTag "title" [] ++ (escape page.title.toList ++ (.closeTag "title" ++
          (headAssets ++ (.closeTag "head" ++ bodyTag page.onLoad)))))))))

/-- The ribbon, which site and page both have to ask for. -/
def ribbonIf (onSite onPage : Bool) : Markup :=
  if onSite = true ∧ onPage = true then forkRibbon else []

/-- What stands between ribbon and content: the header fragment, and the menu right behind it. -/
def aboveContent (layout : Layout) (page : Page) (fragments : Fragments) : Markup :=
  .openTag "div" [("class", "wrapper")] ++ (.openTag "header" [] ++ (fragments.header ++
    (layout.menu.html page.name.stem layout.linkStyle ++ .closeTag "header")))

/-- The content in its section. -/
def sectionOf (content : Markup) : Markup :=
  "<section>".toList ++ (content ++ "</section>".toList)

/-- What stands below the content. -/
def belowContent (fragments : Fragments) : Markup :=
  .openTag "footer" [] ++ (fragments.footer ++ (.closeTag "footer" ++ (.closeTag "div" ++
    (footAssets ++ (.closeTag "body" ++ .closeTag "html")))))

/-- A whole page around its content. -/
def written (layout : Layout) (page : Page) (fragments : Fragments) (content : Markup) : Markup :=
  opening page ++ (ribbonIf layout.ribbon page.ribbon ++ (aboveContent layout page fragments ++
    (sectionOf content ++ belowContent fragments)))

/-- What browsers show between ribbon and scripts. -/
theorem wrapper_eq (parts : Parts) : parts.wrapper =
    .openTag "div" [("class", "wrapper")] ++ (.openTag "header" [] ++ (parts.header ++ (parts.menu ++
      (.closeTag "header" ++ (sectionOf parts.content ++ (.openTag "footer" [] ++ (parts.footer ++
        (.closeTag "footer" ++ .closeTag "div")))))))) := by
  have content : sectionOf parts.content =
      Markup.openTag "section" [] ++ (parts.content ++ Markup.closeTag "section") := rfl
  simp only [Parts.wrapper, Markup.element, content, List.append_assoc]

/-- The layout shows a page in this order, whatever its content is. -/
theorem present_eq (layout : Layout) (page : Page) (fragments : Fragments) (content : Markup) :
    layout.present page fragments content = written layout page fragments content := by
  let parts (ribbon : Option Markup) : Parts :=
    { title := page.title
      onLoad := page.onLoad
      headAssets
      ribbon
      header := fragments.header
      menu := layout.menu.html page.name.stem layout.linkStyle
      content
      footer := fragments.footer
      footAssets }
  have shown : layout.present page fragments content =
      (parts (if layout.ribbon && page.ribbon then some forkRibbon else none)).html := rfl
  have ribbon : (if layout.ribbon && page.ribbon then some forkRibbon else none).getD [] =
      ribbonIf layout.ribbon page.ribbon := by
    cases layout.ribbon <;> cases page.ribbon <;> rfl
  rw [shown]
  unfold Parts.html Parts.head Parts.body written opening bodyTag aboveContent belowContent
  simp only [parts, wrapper_eq, ribbon, openTag_body, Markup.element, Markup.text,
    List.append_assoc]

/-! ## A page and what is fetched for it -/

/-- How the assembly of a page comes out. -/
def rendered (layout : Layout) (page : Page) (fragments : Fragments) (source : Source) :
    Except Failure Markup :=
  (Fetching.outcome (layout.assemble page fragments source)).1

/-- A document comes out in its page, and the failure of its fetch comes out as it is. -/
theorem assemble_outcome_written (layout : Layout) (page : Page) (fragments : Fragments)
    (source : Source) : Fetching.outcome (layout.assemble page fragments source) =
      ((source.answer page.source).map fun text =>
        written layout page fragments (Markdown.renderChars text.toList), [page.source]) := by
  rw [assemble_outcome]
  simp only [present_eq]

theorem rendered_eq (layout : Layout) (page : Page) (fragments : Fragments) (source : Source) :
    rendered layout page fragments source = (source.answer page.source).map fun text =>
      written layout page fragments (Markdown.renderChars text.toList) := by
  rw [rendered, assemble_outcome_written]

/-- The document is all that a page takes from its source. -/
theorem rendered_eq_around_section (layout : Layout) (page : Page) (fragments : Fragments)
    (source : Source) : rendered layout page fragments source =
      (source.answer page.source).map fun text =>
        opening page ++ (ribbonIf layout.ribbon page.ribbon ++ aboveContent layout page fragments) ++
          (sectionOf (Markdown.renderChars text.toList) ++ belowContent fragments) := by
  rw [rendered_eq]
  unfold written
  simp only [List.append_assoc]

/-- A page is assembled in one order: the escaped title and the head assets, the start tag of the body
with its load hook, the ribbon where site and page both ask for it, the header fragment, the menu
with the page's own entry marked and no other, the document, the footer fragment, and the scripts.
A failed fetch comes out as it is. So the ribbon makes no difference but behind the start tag of the
body, and the document makes none but in its section. -/
theorem page_is_assembled_in_order (layout : Layout) (page : Page) (fragments : Fragments)
    (source : Source) :
    Fetching.outcome (layout.assemble page fragments source) =
      ((source.answer page.source).map fun text =>
        written layout page fragments (Markdown.renderChars text.toList), [page.source]) ∧
    readLinks (layout.menu.html page.name.stem layout.linkStyle) =
      (layout.menu.entries.map fun entry =>
        ⟨"./" ++ entry.name.text, entry.label, entry.name.stem == page.name.stem⟩) ∧
    (∃ behind : String → Markup, ∀ onSite onPage,
      rendered { layout with ribbon := onSite } { page with ribbon := onPage } fragments source =
        (source.answer page.source).map fun text =>
          opening page ++ (ribbonIf onSite onPage ++ behind text)) ∧
    ∃ before after, ∀ other : Source,
      rendered layout page fragments other =
        (other.answer page.source).map fun text =>
          before ++ (sectionOf (Markdown.renderChars text.toList) ++ after) := by
  refine ⟨assemble_outcome_written layout page fragments source, readLinks_menu _ _ _, ?_, ?_⟩
  · refine ⟨fun text => aboveContent layout page fragments ++
      (sectionOf (Markdown.renderChars text.toList) ++ belowContent fragments), ?_⟩
    intro onSite onPage
    exact rendered_eq { layout with ribbon := onSite } { page with ribbon := onPage } fragments source
  · exact ⟨_, _, rendered_eq_around_section layout page fragments⟩

end Handbook.Presentations
