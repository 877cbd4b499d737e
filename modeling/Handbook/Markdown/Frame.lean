import Handbook.Markdown.Block

/-! Containers that are still open. Each line first continues as many of them as it can, from the
outermost inwards; what it cannot continue ends. -/
namespace Handbook.Markdown

/-- An open container with what it holds so far, the latest first. An item always stands in a
list; the list stays open between its items. -/
inductive Frame where
  | quote (blocks : List Block)
  | list (marker : ListMarker) (tight : Bool) (items : List (List Block))
  | item (indent : Nat) (blocks : List Block)
  | footnote (label : List Char) (blocks : List Block)

/-- The mark of a quotation and the space behind it. -/
def quoteMark? (cursor : Cursor) : Option Cursor :=
  (cursor.char? '>').map fun after => (after.takeColumns 1).2

/-- Consumes what continues a container at the start of a line. Items and footnotes are continued
by their indentation or by an empty line. -/
def Frame.continue? (frame : Frame) (cursor : Cursor) : Option Cursor :=
  match frame with
  | .quote _ => quoteMark? (cursor.takeColumns 3).2
  | .list .. => some cursor
  | .item indent _ => indented indent
  | .footnote .. => indented 4
where
  /-- The line behind the given indentation. -/
  indented (columns : Nat) : Option Cursor :=
    let (missing, after) := cursor.takeColumns columns
    if missing = 0 || after.atEnd then some after else none

/-- Continues containers, outermost first: how many the line continues, and where it stands then. -/
def continueAll : List Frame → Cursor → Nat × Cursor
  | [], cursor => (0, cursor)
  | frame :: frames, cursor =>
    match frame.continue? cursor with
    | some after =>
      let (count, rest) := continueAll frames after
      (count + 1, rest)
    | none => (0, cursor)

/-- Where a line stands behind its containers, given the innermost first, and whether it continues
all of them. -/
def lineStart (frames : List Frame) (line : Line) : Nat × Cursor :=
  continueAll frames.reverse (Cursor.ofText line.text)

/-- Where a line stands behind its containers if it continues all of them. -/
def fullStart? (frames : List Frame) (line : Line) : Option Cursor :=
  let (count, cursor) := lineStart frames line
  if count = frames.length then some cursor else none

/-- The columns of the table whose header row this text is, if the next line is its delimiter
row. -/
def tableAhead? (frames : List Frame) (header : List Char) (following : List Line) :
    Option (List Alignment) := do
  let next ← following.head?
  let start ← fullStart? frames next
  tableColumns? header start.rest

/-- Whether the definition of a footnote starts here. -/
def startsFootnote (inTable : Bool) : List Char → Bool
  | '[' :: cs =>
    match footnoteLabel? inTable (ofText cs) with
    | some (_, used) => (cs.drop used).head? == some ':'
    | none => false
  | _ => false

/-- Whether the text of a line, behind its containers and less than four columns of indentation,
ends the paragraph before it. A line that does not continue all containers is held to less. -/
def interrupts (continued inTable : Bool) (cs : List Char) : Bool :=
  cs.isEmpty || isThematicBreak cs || (headingLevel? cs).isSome || (openingFence? cs).isSome ||
    cs.head? == some '>' ||
    (if continued && !inTable then interruptingItem cs else anyItem cs) ||
    (cs.head? == some '<' && ((htmlEnd? (cs.drop 1)).isSome || startsBlockTag (cs.drop 1))) ||
    startsFootnote inTable cs

/-- The same for a line in its place: if it starts with a bar, the next line may make it the header
of a table. -/
def interruptsParagraph (frames : List Frame) (continued : Bool) (cs : List Char)
    (following : List Line) : Bool :=
  interrupts continued false cs ||
    (cs.head? == some '|' && (tableAhead? frames cs following).isSome)

/-- The lines that continue a paragraph up to the first that does not, as content: nothing that
ends a paragraph or underlines it goes in. -/
def continuation (frames : List Frame) (ending : List Char) : List Line → List Atom
  | [] => []
  | line :: following =>
    let (count, cursor) := lineStart frames line
    let (missing, inner) := cursor.takeColumns 4
    let body := inner.skipAll.rest
    if body.isEmpty || (missing ≠ 0 &&
        (interruptsParagraph frames (count == frames.length) inner.rest following ||
          (underlineLevel? inner.rest).isSome)) then []
    else
      turnTo line.text cursor.rest body ending :: ofText body ++
        continuation frames line.ending following
where
  /-- The turn to a line, given what is left of it behind its margin and its indentation. -/
  turnTo (text behindMargin body ending : List Char) : Atom :=
    .turn {
      ending
      margin := text.take (text.length - behindMargin.length)
      indent := behindMargin.take (behindMargin.length - body.length) }

end Handbook.Markdown
