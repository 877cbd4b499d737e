import Handbook.Markdown.Character

/-! Lines, and a cursor that reads the indentation and the container markers at the start of one.
Columns matter there: a tab reaches to the next multiple of four, and a container may use a part of
it and leave the rest to its content. -/
namespace Handbook.Markdown

/-- A line without its ending, and the characters that end it: none at the end of the document. -/
structure Line where
  text : List Char
  ending : List Char
  deriving Repr, DecidableEq

/-- The lines of a text. A line feed, a carriage return and the pair of them end a line. -/
def linesOf : List Char → List Line
  | [] => []
  | '\n' :: rest => ⟨[], ['\n']⟩ :: linesOf rest
  | '\r' :: '\n' :: rest => ⟨[], ['\r', '\n']⟩ :: linesOf rest
  | '\r' :: rest => ⟨[], ['\r']⟩ :: linesOf rest
  | c :: rest =>
    match linesOf rest with
    | line :: lines => ⟨c :: line.text, line.ending⟩ :: lines
    | [] => [⟨[c], []⟩]

/-- Verbatim text runs to the next line feed: the text behind `start` on a line, with the lines
that a lone carriage return separates from it, and how many of those there are. -/
def verbatim (start ending : List Char) (following : List Line) : List Char × Nat :=
  if ending == ['\r'] then
    match following with
    | [] => (start ++ ending, 0)
    | line :: rest =>
      let (text, count) := verbatim line.text line.ending rest
      (start ++ ending ++ text, count + 1)
  else (start ++ ending, 0)

/-- Text as code and HTML blocks keep it: a carriage return before the last character is dropped,
which turns the pair of line-ending characters into a line feed. -/
def plainEnding (cs : List Char) : List Char :=
  match cs.reverse with
  | last :: '\r' :: before => if last.toNat < 0x80 then before.reverse ++ [last] else cs
  | _ => cs

/-- A place at the start of a line: what is left of it, the columns since the last tab stop, and
the columns of a tab that were not used up. -/
structure Cursor where
  rest : List Char
  column : Nat
  spare : Nat
  deriving Repr, DecidableEq

/-- The start of a text. -/
def Cursor.ofText (cs : List Char) : Cursor := ⟨cs, 0, 0⟩

/-- Whether nothing is left of the line. -/
def Cursor.atEnd (cursor : Cursor) : Bool := cursor.rest.isEmpty

/-- Consumes up to the given number of columns of spaces and tabs; the number tells how many were
not there. -/
def Cursor.takeColumns (wanted : Nat) (cursor : Cursor) : Nat × Cursor :=
  let used := min cursor.spare wanted
  go (wanted - used) cursor.rest cursor.column (cursor.spare - used)
where
  /-- The loop over the characters, with nothing spare while columns are wanted. -/
  go (wanted : Nat) : List Char → Nat → Nat → Nat × Cursor
    | ' ' :: rest, column, spare =>
      if wanted = 0 then (0, ⟨' ' :: rest, column, spare⟩)
      else go (wanted - 1) rest (column + 1) spare
    | '\t' :: rest, column, spare =>
      if wanted = 0 then (0, ⟨'\t' :: rest, column, spare⟩)
      else
        let width := 4 - column % 4
        let used := min width wanted
        go (wanted - used) rest 0 (width - used)
    | rest, column, spare => (wanted, ⟨rest, column, spare⟩)

/-- Consumes as many columns as there are, up to the given number, which it returns. -/
def Cursor.upTo (most : Nat) (cursor : Cursor) : Nat × Cursor :=
  let (missing, after) := cursor.takeColumns most
  (most - missing, after)

/-- Consumes all spaces and tabs. -/
def Cursor.skipAll (cursor : Cursor) : Cursor :=
  let gap := cursor.rest.takeWhile fun c => c == ' ' || c == '\t'
  ⟨cursor.rest.drop gap.length, cursor.column + gap.length, 0⟩

/-- Consumes one given character. -/
def Cursor.char? (c : Char) (cursor : Cursor) : Option Cursor :=
  match cursor.rest with
  | d :: rest => if c = d then some ⟨rest, cursor.column + 1, cursor.spare⟩ else none
  | [] => none

end Handbook.Markdown
