import Handbook.Markdown.Frame

/-! Building the blocks of a document, line by line. A line continues the open containers, then the
open leaf if it can; otherwise it opens containers of its own and a leaf inside them. -/
namespace Handbook.Markdown

/-- The leaf that the next line may continue. Behind definitions, a line that would continue a
paragraph begins one. -/
inductive Leaf where
  | closed
  | definitions
  | paragraph (task : Option Bool) (content : List Atom) (ending : List Char)
  | fenced (fence : Fence) (indent : Nat) (info text : List Char)
  | indented (text blanks : List Char)
  | html (stop : Option (List Char)) (text : List Char)
  | table (columns : List Alignment) (header : List (List Atom)) (rows : List (List (List Atom)))

/-- A document under construction. Lists hold the latest first. `blank` tells whether an empty line
came last, `fresh` whether an item has just been opened by a line that ends behind its marker, and
`skip` counts the lines ahead that are used up already. -/
structure Builder where
  blocks : List Block
  frames : List Frame
  leaf : Leaf
  blank : Bool
  fresh : Bool
  definitions : List Definition
  footnotes : List (List Char)
  skip : Nat

namespace Builder

/-- Before the first line. -/
def empty : Builder := ⟨[], [], .closed, false, false, [], [], 0⟩

/-- Adds a finished block to the innermost container. -/
def add (block : Block) (b : Builder) : Builder :=
  match b.frames with
  | [] => { b with blocks := block :: b.blocks }
  | .quote blocks :: frames => { b with frames := .quote (block :: blocks) :: frames }
  | .item indent blocks :: frames => { b with frames := .item indent (block :: blocks) :: frames }
  | .footnote label blocks :: frames =>
    { b with frames := .footnote label (block :: blocks) :: frames }
  | .list marker tight items :: frames =>
    { b with frames := .list marker tight ([block] :: items) :: frames }

/-- Ends the innermost container. -/
def closeFrame (b : Builder) : Builder :=
  match b.frames with
  | [] => b
  | .quote blocks :: frames => { b with frames }.add (.quote blocks.reverse)
  | .footnote label blocks :: frames => { b with frames }.add (.footnote label blocks.reverse)
  | .item _ blocks :: .list marker tight items :: frames =>
    { b with frames := .list marker tight (blocks.reverse :: items) :: frames }
  | .item _ blocks :: frames => { b with frames }.add (.list none true [blocks.reverse])
  | .list marker tight items :: frames =>
    { b with frames, fresh := b.fresh && !tight }.add (.list marker.start? tight items.reverse)

/-- Ends containers until the given number is left. -/
def closeTo (count : Nat) (b : Builder) : Builder :=
  Nat.repeat closeFrame (b.frames.length - count) b

/-- An empty line: it ends nothing by itself but is remembered, and an item that has only its
marker so far no longer waits for indentation. -/
def emptyLine (b : Builder) : Builder :=
  match b.frames with
  | .quote _ :: _ => b
  | .item indent blocks :: frames =>
    { b with
      frames := .item (if b.fresh then 0 else indent) blocks :: frames
      blank := true }
  | _ => { b with blank := true }

/-- Ends the open leaf. Empty lines at the end of indented code are not part of it, but they are
remembered. -/
def closeLeaf (b : Builder) : Builder :=
  let done := { b with leaf := .closed }
  match b.leaf with
  | .closed => b
  | .definitions => done
  | .paragraph task content _ => done.add (.paragraph task content)
  | .fenced _ _ info text => done.add (.code (some info) text)
  | .indented text [] => done.add (.code none text)
  | .indented text _ => { done.add (.code none text) with blank := true }
  | .html _ text => done.add (.html text)
  | .table columns header rows => done.add (.table columns header rows.reverse)

/-- Ends an item that began with two empty lines. -/
def closeEmptyItem (b : Builder) : Builder :=
  let b :=
    match b.frames with
    | .item .. :: _ => if b.fresh && b.blank then b.closeFrame else b
    | _ => b
  { b with fresh := false }

/-- Ends a list that no item continues. An empty line before what follows makes the list around
the current item loose. -/
def closeList (b : Builder) : Builder :=
  let b := b.closeEmptyItem
  let b :=
    match b.frames with
    | .list .. :: _ => b.closeFrame
    | _ => b
  match b.blank, b.frames with
  | true, inner :: .list marker _ items :: frames =>
    { b with frames := inner :: .list marker false items :: frames, blank := false }
  | _, _ => { b with blank := false }

/-- Opens a container. -/
def openFrame (frame : Frame) (b : Builder) : Builder := { b with frames := frame :: b.frames }

/-- Goes on with the open list if the marker fits, or opens a list. -/
def openList (marker : ListMarker) (b : Builder) : Builder :=
  let b := b.closeEmptyItem
  let start (b : Builder) : Builder := { b.openFrame (.list marker true []) with blank := false }
  match b.frames with
  | [] => start b
  | .list other tight items :: frames =>
    if other.sameList marker then
      { b with frames := .list other (tight && !b.blank) items :: frames, blank := false }
    else start b.closeList
  | _ => start b.closeList

/-- A marker that opens a list item at the cursor, the indentation that continues the item, and
what follows the marker. A thematic break is no item. -/
def itemStart? (outer : Nat) (cursor : Cursor) : Option (ListMarker × Nat × Cursor) := do
  guard (!isThematicBreak cursor.rest)
  let (marker, width) ← listMarker? cursor.rest
  let behind : Cursor := ⟨cursor.rest.drop width, cursor.column + width, cursor.spare⟩
  let (missing, after) := behind.takeColumns 1
  guard (missing = 0 || behind.atEnd)
  let indent := outer + width + 1
  if allGap after.rest then pure (marker, indent, after)
  else
    match after.upTo 4 with
    | (4, _) => pure (marker, indent, after)
    | (more, inner) => pure (marker, indent + more, inner)

/-- A task marker at the cursor: whether the task is done, and what follows. -/
def taskMarker? (cursor : Cursor) : Option (Bool × List Char) :=
  match (cursor.upTo 3).2.rest with
  | '[' :: c :: ']' :: next :: rest =>
    if !isGap next then none
    else if isGap c then some (false, next :: rest)
    else if c == 'x' || c == 'X' then some (true, next :: rest)
    else none
  | _ => none

/-- Opens a paragraph, or a table if the line is the header of one. -/
def openParagraph (task : Option Bool) (cs ending : List Char) (following : List Line)
    (b : Builder) : Builder :=
  match if endsEscaped cs then none else tableAhead? b.frames cs following with
  | some columns =>
    { b with leaf := .table columns (fitRow columns.length (rowCells cs)) [], skip := 1 }
  | none => { b with leaf := .paragraph task (ofText cs) ending }

/-- Opens a paragraph, or takes in the definition that stands in its place. -/
def openText (cs ending : List Char) (following : List Line) (b : Builder) : Builder :=
  match definition? (ofText cs ++ continuation b.frames ending following) with
  | some (found, extra) =>
    { b with leaf := .definitions, definitions := found :: b.definitions, skip := extra }
  | none => b.openParagraph none cs ending following

/-- A text with the columns that were left over of a tab before it. -/
def padded (columns : Nat) (cs : List Char) : List Char := List.replicate columns ' ' ++ cs

/-- Opens the leaf that a line begins behind its containers; the line is not empty. -/
def openLeaf (cursor : Cursor) (line : Line) (following : List Line) (b : Builder) : Builder :=
  let (indent, inner) := cursor.upTo 4
  let (whole, extra) := verbatim inner.rest line.ending following
  let cs := inner.rest
  if indent = 4 then
    { b with leaf := .indented (padded inner.spare (plainEnding whole)) [], skip := extra }
  else
    let html := padded (max cursor.spare indent) (plainEnding whole)
    let htmlLeaf? : Option Leaf :=
      match cs with
      | '<' :: inside =>
        match htmlEnd? inside with
        | some stop => some (.html (some stop) html)
        | none => if startsBlockTag inside || isLoneTag inside then some (.html none html) else none
      | _ => none
    match htmlLeaf? with
    | some (.html (some stop) text) =>
      let opened := { b with leaf := .html (some stop) text, skip := extra }
      if occursIn stop whole then opened.closeLeaf else opened
    | some leaf => { b with leaf, skip := extra }
    | none =>
      if isThematicBreak cs then b.add .thematicBreak
      else
        match headingLevel? cs, openingFence? cs with
        | some level, _ => b.add (.heading level none (ofText (headingText (cs.drop level))))
        | none, some fence =>
          let (info, extra) := verbatim (cs.drop fence.length) line.ending following
          let trimmed := ((info.dropWhile isGap).reverse.dropWhile isSpace).reverse
          { b with leaf := .fenced fence indent (unescapeText false trimmed) [], skip := extra }
        | none, none => b.openText cs line.ending following

/-- Opens what a line begins behind the containers it continues: containers as long as there are
markers, then a leaf. -/
def openBlocks (cursor : Cursor) (line : Line) (following : List Line) (b : Builder) : Builder :=
  let (outer, inner) := cursor.upTo 4
  let leafHere : Unit → Builder := fun _ =>
    if allGap cursor.rest then b.emptyLine else b.closeList.openLeaf cursor line following
  if outer = 4 then leafHere ()
  else
    match inner.rest, footnoteLabel? false (ofText (inner.rest.drop 1)) with
    | '[' :: behind, some (label, used) =>
      match behind.drop used with
      | ':' :: rest =>
        let b := b.closeList
        let b :=
          match b.frames with
          | .footnote .. :: _ => b.closeFrame
          | _ => b
        let b := { b with footnotes := label :: b.footnotes }.openFrame (.footnote label [])
        let after := Cursor.ofText (rest.dropWhile isGap)
        if _h : after.rest.length < cursor.rest.length then openBlocks after line following b else b
      | _ => leafHere ()
    | _, _ =>
      match itemStart? outer inner with
      | some (marker, indent, after) =>
        let b := (b.openList marker).openFrame (.item indent [])
        if allGap after.rest then { b with fresh := true }
        else
          match taskMarker? after with
          | some (done, rest) =>
            if allGap rest then { b.add (.task done) with fresh := true }
            else
              b.openParagraph (some done) (rest.dropWhile isGap) line.ending following
          | none =>
            if _h : after.rest.length < cursor.rest.length then openBlocks after line following b
            else b
      | none =>
        match quoteMark? inner with
        | some after =>
          let b := b.closeList.openFrame (.quote [])
          if _h : after.rest.length < cursor.rest.length then openBlocks after line following b
          else b
        | none => leafHere ()
termination_by cursor.rest.length

/-- A line that no open leaf takes. -/
def openLine (line : Line) (following : List Line) (b : Builder) : Builder :=
  let b := b.closeLeaf
  let (count, cursor) := lineStart b.frames line
  (b.closeTo count).openBlocks cursor line following

/-- Tries to continue the open leaf with a line; none if the line ends it. -/
def continueLeaf? (line : Line) (following : List Line) (b : Builder) : Option Builder :=
  let (count, cursor) := lineStart b.frames line
  let continued := count == b.frames.length
  let nothing (cursor : Cursor) : Bool := cursor.atEnd && line.ending.isEmpty
  match b.leaf with
  | .closed => none
  | .definitions =>
    let (missing, inner) := cursor.takeColumns 4
    let body := inner.skipAll.rest
    if body.isEmpty ||
        (missing ≠ 0 && interruptsParagraph b.frames continued inner.rest following) then none
    else some (b.openText body line.ending following)
  | .paragraph task content ending =>
    let (missing, inner) := cursor.takeColumns 4
    let body := inner.skipAll.rest
    let underline := if continued && missing ≠ 0 then underlineLevel? inner.rest else none
    match underline with
    | some level => some ({ b with leaf := .closed }.add (.heading level task content))
    | none =>
      if body.isEmpty ||
          (missing ≠ 0 && interruptsParagraph b.frames continued inner.rest following) then none
      else
        let turn := continuation.turnTo line.text cursor.rest body ending
        some { b with leaf := .paragraph task (content ++ turn :: ofText body) line.ending }
  | .fenced fence indent info text =>
    if !continued then none
    else
      let (_, inner) := cursor.takeColumns indent
      let (missing, close) := inner.takeColumns (4 - indent)
      if missing ≠ 0 && (nothing close || fence.closedBy close.rest) then some b.closeLeaf
      else
        let (whole, extra) := verbatim inner.rest line.ending following
        let text := text ++ padded inner.spare (plainEnding whole)
        some { b with leaf := .fenced fence indent info text, skip := extra }
  | .indented text blanks =>
    let (missing, inner) := cursor.takeColumns 4
    if !continued || (missing ≠ 0 && !inner.atEnd) || nothing inner then none
    else
      let (whole, extra) := verbatim inner.rest line.ending following
      let more := padded inner.spare (plainEnding whole)
      let leaf : Leaf :=
        if allGap inner.rest then .indented text (blanks ++ more)
        else .indented (text ++ blanks ++ more) []
      some { b with leaf, skip := extra }
  | .html stop text =>
    let ended :=
      match stop with
      | some _ => nothing cursor
      | none => allGap cursor.rest
    if !continued || ended then none
    else
      let (whole, extra) := verbatim cursor.rest line.ending following
      let text := text ++ padded cursor.spare (plainEnding whole)
      let b := { b with leaf := .html stop text, skip := extra }
      if stop.any (occursIn · whole) then some b.closeLeaf else some b
  | .table columns header rows =>
    let cs := cursor.skipAll.rest
    let cells := rowCells cs
    if !continued || interrupts true true cs || cells.isEmpty then none
    else some { b with leaf := .table columns header (fitRow columns.length cells :: rows) }

/-- Takes one line in, with sight of the lines that follow. -/
def step (line : Line) (following : List Line) (b : Builder) : Builder :=
  match b.skip with
  | ahead + 1 => { b with skip := ahead }
  | 0 => (b.continueLeaf? line following).getD (b.openLine line following)

/-- Takes all lines in. -/
def run (b : Builder) : List Line → Builder
  | [] => b
  | line :: following => (b.step line following).run following

/-- Ends everything that is still open. -/
def finish (b : Builder) : Document :=
  let b := b.closeLeaf.closeTo 0
  ⟨b.blocks.reverse, b.definitions.reverse, b.footnotes.reverse⟩

end Builder

/-- The block structure of a text. -/
def Document.ofText (cs : List Char) : Document := (Builder.empty.run (linesOf cs)).finish

end Handbook.Markdown
