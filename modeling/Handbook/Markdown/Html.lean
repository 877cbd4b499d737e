import Handbook.Markdown.Builder
import Handbook.Markdown.Reading
import Handbook.Text.Escape
import Handbook.Text.Hex
import Handbook.Text.Utf8

/-! Writing a document as HTML. A block begins on a line of its own, and footnotes are numbered in
the order in which they are first written. -/
namespace Handbook.Markdown
open Handbook.Text

/-- What has been written, whether it ends a line, and the labels of the footnotes met so far. -/
structure Writer where
  html : List Char
  atLineStart : Bool
  footnotes : List (List Char)

namespace Writer

/-- Before anything is written. -/
def empty : Writer := ⟨[], true, []⟩

/-- Writes a text as it is. -/
def put (cs : List Char) (w : Writer) : Writer :=
  match cs.getLast? with
  | some last => { w with html := cs.reverse ++ w.html, atLineStart := last == '\n' }
  | none => w

/-- Writes a tag or another fixed text. -/
def tag (s : String) (w : Writer) : Writer := w.put s.toList

/-- Ends the line unless it is ended. -/
def freshLine (w : Writer) : Writer := if w.atLineStart then w else w.put ['\n']

/-- The number of a footnote; a new label gets the next one. -/
def number (label : List Char) (w : Writer) : Nat × Writer :=
  match w.footnotes.findIdx? (· == label) with
  | some place => (place + 1, w)
  | none => (w.footnotes.length + 1, { w with footnotes := w.footnotes ++ [label] })

end Writer

/-- The escaped form of a character between tags, where quotation marks stand for themselves. -/
def bodyChar (c : Char) : List Char := if c == '"' then [c] else escapeChar c

/-- A text between tags. -/
def bodyText (cs : List Char) : List Char := cs.flatMap bodyChar

/-- The escaped form of a character inside an attribute. -/
def attributeChar (c : Char) : List Char := if c == '\'' then "&#39;".toList else escapeChar c

/-- A text inside an attribute. -/
def attributeText (cs : List Char) : List Char := cs.flatMap attributeChar

/-- Whether a character may stand in an address as it is. -/
def isAddressChar (c : Char) : Bool := c.isAlphanum || "!#$%()*+,-./:;=?@_^~".toList.contains c

/-- The escaped form of a character of an address. -/
def addressChar (c : Char) : List Char :=
  if isAddressChar c then [c]
  else if c == '&' then "&amp;".toList
  else if c == '\'' then "&#x27;".toList
  else (String.utf8EncodeChar c).flatMap fun byte =>
    ['%', upperHexDigit (byte.toNat / 16), upperHexDigit (byte.toNat % 16)]

/-- An address inside an attribute. -/
def addressText (cs : List Char) : List Char := cs.flatMap addressChar

private def decimal (n : Nat) : List Char := Nat.toDigits 10 n

private def titleAttribute (title : List Char) (w : Writer) : Writer :=
  if title.isEmpty then w else (w.tag "\" title=\"").put (attributeText title)

mutual

/-- Writes inline markup. -/
def writeInline : Inline → Writer → Writer
  | .text cs, w => w.put (bodyText cs)
  | .code cs, w => ((w.tag "<code>").put (bodyText cs)).tag "</code>"
  | .html cs, w => w.put cs
  | .softBreak, w => w.tag "\n"
  | .hardBreak, w => w.tag "<br />\n"
  | .emphasis body, w => (writeInlines body (w.tag "<em>")).tag "</em>"
  | .strong body, w => (writeInlines body (w.tag "<strong>")).tag "</strong>"
  | .strikethrough body, w => (writeInlines body (w.tag "<del>")).tag "</del>"
  | .link target body, w =>
    let w := (w.tag "<a href=\"").put (addressText target.destination)
    (writeInlines body ((titleAttribute target.title w).tag "\">")).tag "</a>"
  | .image target body, w =>
    let w := ((w.tag "<img src=\"").put (addressText target.destination)).tag "\" alt=\""
    (titleAttribute target.title (writePlains body w)).tag "\" />"
  | .footnote label, w =>
    let (n, w) := w.number label
    let w := (w.tag "<sup class=\"footnote-reference\"><a href=\"#").put (attributeText label)
    ((w.tag "\">").put (decimal n)).tag "</a></sup>"

/-- Writes a list of inline markup. -/
def writeInlines : List Inline → Writer → Writer
  | [], w => w
  | inline :: rest, w => writeInlines rest (writeInline inline w)

/-- Writes inline markup as the description of an image, which has no markup of its own. -/
def writePlain : Inline → Writer → Writer
  | .text cs, w => w.put (attributeText cs)
  | .code cs, w => w.put (attributeText cs)
  | .html cs, w => w.put (attributeText cs)
  | .softBreak, w => w.tag " "
  | .hardBreak, w => w.tag " "
  | .emphasis body, w => writePlains body w
  | .strong body, w => writePlains body w
  | .strikethrough body, w => writePlains body w
  | .link _ body, w => writePlains body w
  | .image _ body, w => writePlains body w
  | .footnote label, w =>
    let (n, w) := w.number label
    w.put ('[' :: decimal n ++ [']'])

/-- Writes a list of inline markup as a description. -/
def writePlains : List Inline → Writer → Writer
  | [], w => w
  | inline :: rest, w => writePlains rest (writePlain inline w)

end

/-- Writes the box of a task. -/
def writeTask (done : Bool) (w : Writer) : Writer :=
  w.tag (if done then "<input disabled=\"\" type=\"checkbox\" checked=\"\"/>\n"
    else "<input disabled=\"\" type=\"checkbox\"/>\n")

/-- Writes the content of a leaf, behind the box of its task if it has one. -/
def writeContent (doc : Document) (task : Option Bool) (content : List Atom) (w : Writer) :
    Writer :=
  let w :=
    match task with
    | some done => writeTask done w
    | none => w
  writeInlines (inlinesOf ⟨doc, false⟩ content) w

private def cellTag (name : String) : Alignment → String
  | .none => "<" ++ name ++ ">"
  | .left => "<" ++ name ++ " style=\"text-align: left\">"
  | .center => "<" ++ name ++ " style=\"text-align: center\">"
  | .right => "<" ++ name ++ " style=\"text-align: right\">"

/-- Writes the cells of a row, each set as its column is. -/
def writeCells (doc : Document) (name : String) :
    List Alignment → List (List Atom) → Writer → Writer
  | alignment :: columns, cell :: cells, w =>
    let w := writeInlines (inlinesOf ⟨doc, true⟩ cell) (w.tag (cellTag name alignment))
    writeCells doc name columns cells (w.tag ("</" ++ name ++ ">"))
  | _, _, w => w

/-- Writes the rows below the header. -/
def writeRows (doc : Document) (columns : List Alignment) (rows : List (List (List Atom)))
    (w : Writer) : Writer :=
  rows.foldl (fun w row => (writeCells doc "td" columns row (w.tag "<tr>")).tag "</tr>\n") w

private def openCode (info : Option (List Char)) (w : Writer) : Writer :=
  let language := (info.getD []).takeWhile (· != ' ')
  if language.isEmpty then w.freshLine.tag "<pre><code>"
  else
    ((w.freshLine.tag "<pre><code class=\"language-").put (attributeText language)).tag "\">"

private def openList (start : Option Nat) (w : Writer) : Writer :=
  match start with
  | none => w.freshLine.tag "<ul>\n"
  | some 1 => w.freshLine.tag "<ol>\n"
  | some n => ((w.freshLine.tag "<ol start=\"").put (decimal n)).tag "\">\n"

mutual

/-- Writes a block. A paragraph of a tight list has no tags. -/
def writeBlock (doc : Document) (tight : Bool) : Block → Writer → Writer
  | .paragraph task content, w =>
    if tight then writeContent doc task content w
    else (writeContent doc task content (w.freshLine.tag "<p>")).tag "</p>\n"
  | .heading level task content, w =>
    let name := "h" ++ toString level
    (writeContent doc task content (w.freshLine.tag ("<" ++ name ++ ">"))).tag
      ("</" ++ name ++ ">\n")
  | .thematicBreak, w => w.freshLine.tag "<hr />\n"
  | .code info text, w => ((openCode info w).put (bodyText text)).tag "</code></pre>\n"
  | .html text, w => w.put text
  | .quote blocks, w =>
    (writeBlocks doc false blocks (w.freshLine.tag "<blockquote>\n")).tag "</blockquote>\n"
  | .list start tight items, w =>
    (writeItems doc tight items (openList start w)).tag
      (if start.isSome then "</ol>\n" else "</ul>\n")
  | .footnote label blocks, w =>
    let w := (w.freshLine.tag "<div class=\"footnote-definition\" id=\"").put (attributeText label)
    let (n, w) := (w.tag "\"><sup class=\"footnote-definition-label\">").number label
    (writeBlocks doc false blocks ((w.put (decimal n)).tag "</sup>")).tag "</div>\n"
  | .table columns header rows, w =>
    let w := writeCells doc "th" columns header (w.tag "<table><thead><tr>")
    (writeRows doc columns rows (w.tag "</tr></thead><tbody>\n")).tag "</tbody></table>\n"
  | .task done, w => writeTask done w

/-- Writes blocks one after the other. -/
def writeBlocks (doc : Document) (tight : Bool) : List Block → Writer → Writer
  | [], w => w
  | block :: rest, w => writeBlocks doc tight rest (writeBlock doc tight block w)

/-- Writes the items of a list. -/
def writeItems (doc : Document) (tight : Bool) : List (List Block) → Writer → Writer
  | [], w => w
  | item :: rest, w =>
    writeItems doc tight rest ((writeBlocks doc tight item (w.freshLine.tag "<li>")).tag "</li>\n")

end

/-- The HTML of a Markdown text (`render_markdown`). -/
def renderChars (cs : List Char) : List Char :=
  let doc := Document.ofText cs
  (writeBlocks doc false doc.blocks .empty).html.reverse

/-- The HTML of a Markdown document. -/
def render (text : String) : String := String.ofList (renderChars text.toList)

end Handbook.Markdown
