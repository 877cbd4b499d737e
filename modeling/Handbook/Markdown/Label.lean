import Handbook.Markdown.Atom
import Handbook.Text.CaseFold

/-! Labels between square brackets, by which references find their definitions. Blank space in a
label counts as one space and its case does not matter. -/
namespace Handbook.Markdown
open Handbook.Text

/-- What a reader of a label has gathered: the text in reverse, whether a space is due or would be
the first, whether a turn belongs to that space, and how much the label weighs. -/
structure LabelReading where
  text : List Char
  gap : Bool
  turned : Bool
  weight : Nat

/-- A label may not weigh more than this. -/
def labelLimit : Nat := 1000

private def LabelReading.add (reading : LabelReading) (cs : List Char) (weight : Nat) :
    LabelReading :=
  let text := if reading.gap && !reading.text.isEmpty then ' ' :: reading.text else reading.text
  ⟨cs.reverse ++ text, false, false, reading.weight + weight⟩

private def readLabel (acrossLines inTable : Bool) (reading : LabelReading) (used : Nat) :
    List Atom → Option (List Char × Nat)
  | [] => none
  | .turn _ :: rest =>
    if labelLimit ≤ reading.weight || !acrossLines || reading.turned then none
    else readLabel acrossLines inTable { reading with gap := true, turned := true } (used + 1) rest
  | .char c :: rest =>
    if labelLimit ≤ reading.weight || c == '[' then none
    else if c == ']' then
      if reading.text.isEmpty then none else some (reading.text.reverse, used + 1)
    else if isGap c then
      readLabel acrossLines inTable { reading with gap := true, weight := reading.weight + 1 }
        (used + 1) rest
    else
      match c, rest with
      | '\\', .char d :: rest =>
        if inTable && d == '|' then
          readLabel acrossLines inTable (reading.add [d] 1) (used + 2) rest
        else readLabel acrossLines inTable (reading.add [c, d] 2) (used + 2) rest
      | _, rest =>
        readLabel acrossLines inTable
          (reading.add [c] (if c.toNat < 0x80 then 0 else c.utf8Size)) (used + 1) rest

/-- Reads a label behind its opening bracket: its text and the number of atoms it takes, the closing
bracket included. A footnote's label stays on one line, other labels may cross lines. -/
def label? (acrossLines inTable : Bool) (atoms : List Atom) : Option (List Char × Nat) :=
  readLabel acrossLines inTable ⟨[], false, false, 0⟩ 0 atoms

/-- The form in which labels are compared. -/
def labelKey (label : List Char) : List Char := caseFold label

/-- Reads the label of a footnote behind its opening bracket, where a caret marks it. -/
def footnoteLabel? (inTable : Bool) : List Atom → Option (List Char × Nat)
  | .char '^' :: rest =>
    if rest.head? == some (.char ']') then none
    else (label? false inTable rest).map fun read => (read.1, read.2 + 1)
  | _ => none

end Handbook.Markdown
