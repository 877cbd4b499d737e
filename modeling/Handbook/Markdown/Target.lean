import Handbook.Markdown.Atom
import Handbook.Markdown.Entity

/-! What a link leads to: a destination and perhaps a title. The readers answer with the text and
the number of atoms it takes. -/
namespace Handbook.Markdown
open Handbook.Text

/-- Where a link leads, and the title it shows. -/
structure Target where
  destination : List Char
  title : List Char
  deriving Repr, DecidableEq

/-- How deep parentheses may nest in the destination of an inline link. -/
def inlineNesting : Nat := 33

/-- How deep parentheses may nest in the destination of a definition. -/
def definitionNesting : Nat := 2

private def pointedDestination (text : List Char) (used : Nat) :
    List Atom → Option (List Char × Nat)
  | .char '>' :: _ => some (text.reverse, used + 1)
  | .char '\\' :: .char c :: rest =>
    if isAsciiPunctuation c then pointedDestination (c :: '\\' :: text) (used + 2) rest
    else pointedDestination ('\\' :: text) (used + 1) (.char c :: rest)
  | .char c :: rest => if c == '<' then none else pointedDestination (c :: text) (used + 1) rest
  | _ => none

private def plainDestination (most nesting : Nat) (text : List Char) (used : Nat) :
    List Atom → Option (List Char × Nat)
  | .char '(' :: rest =>
    if most ≤ nesting then none
    else plainDestination most (nesting + 1) ('(' :: text) (used + 1) rest
  | .char ')' :: rest =>
    if nesting = 0 then some (text.reverse, used)
    else plainDestination most (nesting - 1) (')' :: text) (used + 1) rest
  | .char '\\' :: .char c :: rest =>
    if isAsciiPunctuation c then plainDestination most nesting (c :: '\\' :: text) (used + 2) rest
    else plainDestination most nesting ('\\' :: text) (used + 1) (.char c :: rest)
  | .char c :: rest =>
    if c.toNat ≤ 0x20 then if nesting = 0 then some (text.reverse, used) else none
    else plainDestination most nesting (c :: text) (used + 1) rest
  | _ => if nesting = 0 then some (text.reverse, used) else none

/-- A destination as written: between angle brackets, or up to the next space with its parentheses
in balance. -/
def destination? (most : Nat) : List Atom → Option (List Char × Nat)
  | .char '<' :: rest => (pointedDestination [] 0 rest).map fun read => (read.1, read.2 + 1)
  | atoms => plainDestination most 0 [] 0 atoms

/-- The delimiter that closes what this one opens, for the three kinds of title. -/
def titleCloser? : Atom → Option Char
  | .char '"' => some '"'
  | .char '\'' => some '\''
  | .char '(' => some ')'
  | _ => none

private def Turn.inTitle (turn : Turn) : List Char :=
  if turn.ending == ['\r', '\n'] then turn.ending else ['\n']

private def inlineTitle (inTable : Bool) (closer : Char) (text : List Char) (used : Nat)
    (atoms : List Atom) : Option (List Char × Nat) :=
  match atoms with
  | [] => none
  | .turn turn :: rest => inlineTitle inTable closer (turn.inTitle.reverse ++ text) (used + 1) rest
  | .char c :: rest =>
    if c == closer then some (text.reverse, used + 1)
    else if c == '(' && closer == ')' then none
    else if c == '&' then
      match reference? (lineChars rest) with
      | some (value, taken) =>
        inlineTitle inTable closer (value.reverse ++ text) (used + taken + 1) (rest.drop taken)
      | none => inlineTitle inTable closer (c :: text) (used + 1) rest
    else
      match c, rest with
      | '\\', .char d :: rest =>
        if inTable && d == '\\' && rest.head? == some (.char '|') then
          inlineTitle inTable closer ('|' :: text) (used + 3) (rest.drop 1)
        else if isAsciiPunctuation d then inlineTitle inTable closer (d :: text) (used + 2) rest
        else inlineTitle inTable closer (c :: text) (used + 1) (.char d :: rest)
      | _, rest => inlineTitle inTable closer (c :: text) (used + 1) rest
termination_by atoms.length
decreasing_by all_goals simp only [List.length_cons, List.length_drop]; omega

private def separated (atoms : List Atom) : List Atom :=
  match atoms.dropWhile Atom.isGap with
  | .turn _ :: rest => rest.dropWhile Atom.isGap
  | rest => rest

/-- The target of an inline link behind its opening parenthesis, up to the closing one. -/
def inlineTarget? (inTable : Bool) (atoms : List Atom) : Option (Target × Nat) :=
  let start := separated atoms
  match destination? inlineNesting start with
  | none => none
  | some (destination, taken) =>
    let after := separated (start.drop taken)
    let titled := do
      let opener ← after.head?
      let closer ← titleCloser? opener
      let (title, taken) ← inlineTitle inTable closer [] 1 (after.drop 1)
      pure (title, separated (after.drop taken))
    let (title, rest) := titled.getD ([], after)
    match rest with
    | .char ')' :: rest =>
      some (⟨unescapeText inTable destination, title⟩, atoms.length - rest.length)
    | _ => none

private def definitionTitle (closer : Char) (text : List Char) (used : Nat) :
    List Atom → Option (List Char × Nat)
  | .turn _ :: rest => definitionTitle closer ('\n' :: text) (used + 1) rest
  | .char '\\' :: .char c :: rest => definitionTitle closer (c :: '\\' :: text) (used + 2) rest
  | .char c :: rest =>
    if c == closer then some (text.reverse, used + 1)
    else definitionTitle closer (c :: text) (used + 1) rest
  | [] => none

/-- The title of a definition as written, with its delimiters. -/
def definitionTitle? (atoms : List Atom) : Option (List Char × Nat) := do
  let opener ← atoms.head?
  let closer ← titleCloser? opener
  definitionTitle closer [] 1 (atoms.drop 1)

end Handbook.Markdown
