import Handbook.Markdown.Character

/-! The content of a leaf block. It is a stream of characters, broken where one line of the leaf
turns into the next; the turn remembers what the document has there, since raw HTML shows it. -/
namespace Handbook.Markdown

/-- The passage from one line of a leaf to the next: the characters that end the line, the part of
the next line that belongs to the containers around the leaf, and the indentation after it. -/
structure Turn where
  ending : List Char
  margin : List Char
  indent : List Char
  deriving Repr, DecidableEq

/-- One element of a leaf's content. -/
inductive Atom where
  | char (c : Char)
  | turn (t : Turn)
  deriving Repr, DecidableEq

/-- The character of an atom, with a line feed for a turn. -/
def Atom.toChar : Atom → Char
  | .char c => c
  | .turn _ => '\n'

/-- Whether an atom is a gap inside a line. -/
def Atom.isGap : Atom → Bool
  | .char c => Markdown.isGap c
  | .turn _ => false

/-- Whether an atom is a gap or a turn. -/
def Atom.isSpace : Atom → Bool
  | .char c => Markdown.isGap c
  | .turn _ => true

/-- Whether an atom is a given character. -/
def Atom.isChar (a : Atom) (c : Char) : Bool := a == .char c

/-- The characters before the next turn. -/
def lineChars : List Atom → List Char
  | .char c :: rest => c :: lineChars rest
  | _ => []

/-- The document's own text of a part of the content, margins included. -/
def rawText (atoms : List Atom) : List Char :=
  atoms.flatMap fun
    | .char c => [c]
    | .turn t => t.ending ++ t.margin ++ t.indent

/-- The document's own text of a part of the content, without the margins. -/
def innerText (atoms : List Atom) : List Char :=
  atoms.flatMap fun
    | .char c => [c]
    | .turn t => t.ending ++ t.indent

/-- A text as content. -/
def ofText (cs : List Char) : List Atom := cs.map .char

/-- What remains after the first occurrence of a text within the content. -/
def afterText (needle : List Char) : List Atom → Option (List Atom)
  | [] => none
  | a :: rest =>
    if (ofText needle).isPrefixOf (a :: rest) then some ((a :: rest).drop needle.length)
    else afterText needle rest

end Handbook.Markdown
