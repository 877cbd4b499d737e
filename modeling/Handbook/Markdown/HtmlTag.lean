import Handbook.Markdown.Atom

/-! Raw HTML as Markdown recognises it: tags with their attributes, comments, processing
instructions, declarations and character data sections. Each reader starts behind the `<` and
answers with what remains behind the construct. -/
namespace Handbook.Markdown

private def isTagName (c : Char) : Bool := c.isAlphanum || c == '-'

private def isAttributeName (c : Char) : Bool :=
  c.isAlphanum || c == '_' || c == '.' || c == ':' || c == '-'

private def isUnquoted (c : Char) : Bool :=
  !(c == '\'' || c == '"' || c == ' ' || c == '=' || c == '>' || c == '<' || c == backtick)

private def charIs (p : Char → Bool) : Atom → Bool
  | .char c => p c
  | .turn _ => false

/-- The value of an attribute, quoted or bare. -/
def attributeValue? : List Atom → Option (List Atom)
  | .char c :: rest =>
    if c == '"' || c == '\'' then
      match rest.dropWhile (fun a => !a.isChar c) with
      | _ :: rest => some rest
      | [] => none
    else if isUnquoted c then some (rest.dropWhile (charIs isUnquoted))
    else none
  | _ => none

/-- An attribute: a name, and a value if an equals sign follows. -/
def attribute? : List Atom → Option (List Atom)
  | .char c :: rest =>
    if c.isAlpha || c == '_' || c == ':' then
      let named := rest.dropWhile (charIs isAttributeName)
      match named.dropWhile Atom.isSpace with
      | .char '=' :: value => attributeValue? (value.dropWhile Atom.isSpace)
      | _ => some named
    else none
  | _ => none

/-- The attributes of a start tag up to its `/` or `>`; each needs blank space before it. -/
def attributes? (atoms : List Atom) : Option (List Atom) :=
  match atoms.dropWhile Atom.isSpace with
  | [] => none
  | next :: rest =>
    if next.isChar '/' || next.isChar '>' then some (next :: rest)
    else if (next :: rest).length = atoms.length then none
    else
      match attribute? (next :: rest) with
      | some after => if _h : after.length < atoms.length then attributes? after else none
      | none => none
termination_by atoms.length

private def closeBracket? : List Atom → Option (List Atom)
  | .char '>' :: rest => some rest
  | _ => none

/-- A start tag or an end tag. -/
def tag? : List Atom → Option (List Atom)
  | .char '/' :: .char c :: rest =>
    if c.isAlpha then closeBracket? ((rest.dropWhile (charIs isTagName)).dropWhile Atom.isGap)
    else none
  | .char c :: rest =>
    if c.isAlpha then
      match attributes? (rest.dropWhile (charIs isTagName)) with
      | some (.char '/' :: rest) => closeBracket? rest
      | some rest => closeBracket? rest
      | none => none
    else none
  | _ => none

/-- A comment behind its `!--`; `>` and `->` close it at once. -/
def comment? : List Atom → Option (List Atom)
  | .char '>' :: rest => some rest
  | .char '-' :: .char '>' :: rest => some rest
  | atoms => afterText ['-', '-', '>'] atoms

/-- Character data behind its opening: the first run of closing brackets must be followed by `>`. -/
def characterData? (atoms : List Atom) : Option (List Atom) :=
  match atoms.dropWhile (fun a => !a.isChar ']') with
  | [] => none
  | closing => closeBracket? (closing.dropWhile (·.isChar ']'))

/-- Everything that starts with an exclamation mark, behind it. -/
def declaration? : List Atom → Option (List Atom)
  | .char '-' :: .char '-' :: rest => comment? rest
  | .char '[' :: .char 'C' :: .char 'D' :: .char 'A' :: .char 'T' :: .char 'A' :: .char '[' ::
      rest => characterData? rest
  | .char c :: rest => if c.isAlpha then afterText ['>'] rest else none
  | _ => none

/-- Raw HTML inside running text, read behind its `<`: its text from there on and the number of
atoms it takes. A tag leaves out the margins of the lines it crosses, the other constructs keep
them. -/
def inlineHtml? (atoms : List Atom) : Option (List Char × Nat) :=
  let taking (text : List Atom → List Char) (rest : List Atom) : List Char × Nat :=
    let used := atoms.length - rest.length
    (text (atoms.take used), used)
  match atoms with
  | .char '!' :: inside => (declaration? inside).map (taking rawText)
  | .char '?' :: inside => (afterText ['?', '>'] inside).map (taking rawText)
  | _ => (tag? atoms).map (taking innerText)

end Handbook.Markdown
