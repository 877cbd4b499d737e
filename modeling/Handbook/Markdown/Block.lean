import Handbook.Markdown.BlockStart
import Handbook.Markdown.Definition

/-! The block structure of a document. Leaves keep their content as it stands in the document;
inline markup is read once the definitions of the whole document are known. -/
namespace Handbook.Markdown

/-- A block. Code keeps the words behind its fence, if it was fenced. -/
inductive Block where
  | paragraph (task : Option Bool) (content : List Atom)
  | heading (level : Nat) (task : Option Bool) (content : List Atom)
  | thematicBreak
  | code (info : Option (List Char)) (text : List Char)
  | html (text : List Char)
  | quote (blocks : List Block)
  | list (start : Option Nat) (tight : Bool) (items : List (List Block))
  | footnote (label : List Char) (blocks : List Block)
  | table (columns : List Alignment) (header : List (List Atom)) (rows : List (List (List Atom)))
  | task (done : Bool)

/-- What a document is made of: its blocks, the targets of its references, the first definition of
a label counting, and the labels of its footnotes. -/
structure Document where
  blocks : List Block
  definitions : List Definition
  footnotes : List (List Char)

/-- The target a label leads to. -/
def Document.target? (doc : Document) (label : List Char) : Option Target :=
  (doc.definitions.find? fun d => labelKey d.label == labelKey label).map (·.target)

/-- Whether a footnote has this label. -/
def Document.hasFootnote (doc : Document) (label : List Char) : Bool :=
  doc.footnotes.any fun other => labelKey other == labelKey label

/-- The cells of a table row. Bars divide them unless a backslash stands before the bar, and blank
space around a cell is not part of it. -/
def rowCells (cs : List Char) : List (List Atom) :=
  go false [] (dropBar cs)
where
  /-- Drops the bar before the first cell. -/
  dropBar : List Char → List Char
    | '|' :: cs => cs
    | cs => cs
  /-- The content of a cell, given in reverse. -/
  close (cell : List Char) : List Atom := ofText (trimGap cell.reverse)
  /-- The cells from here on, given the current one in reverse. A bar at the end opens no cell. -/
  go (escaped : Bool) (cell : List Char) : List Char → List (List Atom)
    | [] => if allGap cell then [] else [close cell]
    | c :: cs =>
      if c == '|' && !escaped then close cell :: go false [] cs
      else go (c == '\\') (c :: cell) cs

/-- A row with as many cells as the table has columns. -/
def fitRow (columns : Nat) (cells : List (List Atom)) : List (List Atom) :=
  (cells ++ List.replicate (columns - cells.length) []).take columns

end Handbook.Markdown
