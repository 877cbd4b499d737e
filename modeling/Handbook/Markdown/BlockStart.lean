import Handbook.Markdown.HtmlTag
import Handbook.Markdown.Line

/-! How blocks announce themselves: thematic breaks, headings, fences, list markers, raw HTML and
the delimiter row of a table. Each test looks at one line behind its indentation. -/
namespace Handbook.Markdown

/-- A thematic break: three or more of one of `*`, `-`, `_`, with spaces and tabs between. -/
def isThematicBreak : List Char → Bool
  | [] => false
  | c :: cs =>
    (c == '*' || c == '-' || c == '_') &&
      cs.all (fun d => d == c || d == ' ' || d == '\t') && 2 ≤ cs.count c

/-- The level of a heading that starts with number signs. -/
def headingLevel? (cs : List Char) : Option Nat :=
  let level := runLength '#' cs
  if 1 ≤ level && level ≤ 6 && (cs.drop level).head?.all isGap then some level else none

/-- The text of such a heading behind its opening signs: closing signs go when a space sets them
off or nothing else is there. -/
def headingText (cs : List Char) : List Char :=
  let body := (cs.dropWhile isGap).reverse.dropWhile (· == ' ')
  let unclosed := body.dropWhile (· == '#')
  match unclosed with
  | [] => []
  | ' ' :: _ => (unclosed.dropWhile (· == ' ')).reverse
  | _ => body.reverse

/-- The level of a heading whose text is underlined by this line. -/
def underlineLevel? : List Char → Option Nat
  | c :: cs =>
    if c == '=' || c == '-' then
      if allGap (cs.dropWhile (· == c)) then some (if c == '=' then 1 else 2) else none
    else none
  | [] => none

/-- The fence of a code block: its character, its length and what follows it. -/
structure Fence where
  char : Char
  length : Nat
  deriving Repr, DecidableEq

/-- An opening fence; behind backticks, no backtick may follow. -/
def openingFence? : List Char → Option Fence
  | c :: cs =>
    if c == backtick || c == '~' then
      let length := runLength c cs + 1
      if length < 3 || (c == backtick && (cs.drop (length - 1)).contains c) then none
      else some ⟨c, length⟩
    else none
  | [] => none

/-- Whether a line closes the fence: at least as many of its characters, then only spaces. -/
def Fence.closedBy (fence : Fence) (cs : List Char) : Bool :=
  fence.length ≤ runLength fence.char cs &&
    ((cs.drop (runLength fence.char cs)).all (· == ' '))

/-- The kinds of list marker: a bullet, or a number with its delimiter. -/
structure ListMarker where
  char : Char
  number : Nat
  deriving Repr, DecidableEq

/-- Whether two markers may stand in one list. -/
def ListMarker.sameList (a b : ListMarker) : Bool := a.char == b.char

/-- The number a list starts with, if its marker counts. -/
def ListMarker.start? (marker : ListMarker) : Option Nat :=
  if marker.char == '.' || marker.char == ')' then some marker.number else none

/-- A list marker at the start of a text and the number of characters it takes. -/
def listMarker? (cs : List Char) : Option (ListMarker × Nat) :=
  match cs with
  | c :: _ =>
    if c == '-' || c == '+' || c == '*' then some (⟨c, 0⟩, 1)
    else
      let digits := (cs.take 9).takeWhile Char.isDigit
      match digits, cs.drop digits.length with
      | _ :: _, d :: _ =>
        if d == '.' || d == ')' then
          some (⟨d, digits.foldl (fun n e => n * 10 + (e.toNat - 0x30)) 0⟩, digits.length + 1)
        else none
      | _, _ => none
  | [] => none

/-- Whether a list item that may break into a paragraph starts here: its marker is a bullet or the
number one, and the item is not empty. -/
def interruptingItem (cs : List Char) : Bool :=
  match listMarker? cs with
  | some (marker, used) =>
    (marker.start?.all (· == 1)) && (cs.drop used).head?.any (fun c => c == ' ' || c == '\t') &&
      !allGap (cs.drop used)
  | none => false

/-- Whether any list item starts here. -/
def anyItem (cs : List Char) : Bool :=
  match listMarker? cs with
  | some (_, used) => (cs.drop used).head?.all fun c => c == ' ' || c == '\t'
  | none => false

/-- A text with its ASCII letters small. -/
def lowered (cs : List Char) : List Char := cs.map Char.toLower

/-- The tags whose content is not Markdown. -/
def verbatimTags : List String := ["pre", "style", "script", "textarea"]

/-- The tags that start a block of HTML up to the next blank line. -/
def blockTags : List String :=
  ["address", "article", "aside", "base", "basefont", "blockquote", "body", "caption", "center",
   "col", "colgroup", "dd", "details", "dialog", "dir", "div", "dl", "dt", "fieldset",
   "figcaption", "figure", "footer", "form", "frame", "frameset", "h1", "h2", "h3", "h4", "h5",
   "h6", "head", "header", "hr", "html", "iframe", "legend", "li", "link", "main", "menu",
   "menuitem", "nav", "noframes", "ol", "optgroup", "option", "p", "param", "search", "section",
   "summary", "table", "tbody", "td", "tfoot", "th", "thead", "title", "tr", "track", "ul"]

/-- The text that ends an HTML block which may hold blank lines, given what follows its `<`. -/
def htmlEnd? (cs : List Char) : Option (List Char) :=
  let tag? := verbatimTags.find? fun tag =>
    lowered (cs.take tag.length) == tag.toList &&
      (cs.drop tag.length).head?.all (fun c => isGap c || c == '>')
  match tag?, cs with
  | some tag, _ => some ("</".toList ++ tag.toList ++ ['>'])
  | none, '!' :: '-' :: '-' :: _ => some ['-', '-', '>']
  | none, '?' :: _ => some ['?', '>']
  | none, '!' :: c :: rest =>
    if "[CDATA[".toList.isPrefixOf (c :: rest) then some [']', ']', '>']
    else if c.isAlpha then some ['>']
    else none
  | none, _ => none

/-- Whether a block tag follows the `<`. -/
def startsBlockTag (cs : List Char) : Bool :=
  let inside := if cs.head? == some '/' then cs.drop 1 else cs
  let name := inside.takeWhile Char.isAlphanum
  let after := inside.drop name.length
  blockTags.contains (String.ofList (lowered name)) &&
    (after.head?.all (fun c => c == ' ' || c == '\t' || c == '>') || ['/', '>'].isPrefixOf after)

/-- Whether one complete tag, and nothing else, follows the `<`. -/
def isLoneTag (cs : List Char) : Bool :=
  match tag? (ofText cs) with
  | some rest => rest.all Atom.isGap
  | none => false

/-- How the cells of a column are set. -/
inductive Alignment where
  | none
  | left
  | center
  | right
  deriving Repr, DecidableEq

/-- One column of a delimiter row: hyphens, with colons at the sides to align to. -/
structure DelimiterColumn where
  alignment : Alignment
  started : Bool
  hyphen : Bool

private def DelimiterColumn.empty : DelimiterColumn := ⟨.none, false, false⟩

/-- The columns of a delimiter row behind its first bar. -/
def delimiterColumns? (current : DelimiterColumn) (hyphen : Bool) :
    List Char → Option (List Alignment)
  | [] =>
    if hyphen then some (if current.started then [current.alignment] else []) else none
  | ' ' :: cs => delimiterColumns? current hyphen cs
  | ':' :: cs =>
    let alignment : Alignment :=
      match current.started, current.alignment with
      | false, .none => .left
      | true, .left => .center
      | true, .none => .right
      | _, other => other
    delimiterColumns? ⟨alignment, true, current.hyphen⟩ hyphen cs
  | '-' :: cs => delimiterColumns? ⟨current.alignment, true, true⟩ true cs
  | '|' :: cs =>
    if current.hyphen then
      (delimiterColumns? .empty hyphen cs).map (current.alignment :: ·)
    else none
  | _ => none

/-- The columns of a delimiter row, which may be indented by up to three columns and has a bar
somewhere. -/
def delimiterRow? (cs : List Char) : Option (List Alignment) :=
  let (indent, after) := (Cursor.ofText cs).upTo 4
  if 3 < indent || !after.rest.contains '|' then none
  else
    match after.rest with
    | [] => none
    | '|' :: row => delimiterColumns? .empty false row
    | row => delimiterColumns? .empty false row

/-- The number of bars in a text that have no backslash right before them, and what follows the
last one. -/
def bars (cs : List Char) : Nat × List Char :=
  go false (0, cs) cs
where
  /-- Counts on from the bars found so far. -/
  go (escaped : Bool) (found : Nat × List Char) : List Char → Nat × List Char
    | [] => found
    | c :: cs => go (c == '\\') (if c == '|' && !escaped then (found.1 + 1, cs) else found) cs

/-- Whether a line ends with a backslash that no other one escapes. -/
def endsEscaped (cs : List Char) : Bool := runLength '\\' cs.reverse % 2 == 1

/-- The number of columns that the bars of a header row divide it into; bars at the two ends divide
nothing. -/
def headerColumns (cs : List Char) : Nat :=
  let (count, tail) := bars cs
  let inner := if (cs.dropWhile isGap).head? == some '|' then count - 1 else count
  if allGap tail then inner else inner + 1

/-- The columns of a table whose header row and delimiter row these lines are. -/
def tableColumns? (header delimiters : List Char) : Option (List Alignment) :=
  if (bars header).1 = 0 then none
  else
    match delimiterRow? delimiters with
    | some columns => if columns.length = headerColumns header then some columns else none
    | none => none

end Handbook.Markdown
