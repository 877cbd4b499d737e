import Handbook.Markdown.Autolink
import Handbook.Markdown.Block
import Handbook.Markdown.Inline
import Handbook.Text.Blank

/-! Reading the content of a leaf into inline markup, from left to right. Code, raw HTML and
addresses are taken where they begin; a closing bracket decides about the bracket that it closes. -/
namespace Handbook.Markdown
open Handbook.Text

/-- What reading depends on: the document with its definitions, and whether the content is a cell
of a table, where a bar has to be escaped even inside code. -/
structure ReadingContext where
  document : Document
  inTable : Bool

/-- An opening bracket that waits: whether it may begin an image, whether it may still begin a
link, the content behind it, and the pieces before it, the latest first. -/
structure Bracket where
  image : Bool
  live : Bool
  label : List Atom
  before : List Piece

/-- What has been read: the pieces behind the innermost waiting bracket, the latest first, the
waiting brackets, the innermost first, the character read last unless a line begins, and the
brackets, by how much follows them, that have closed a failed reference and stand for nothing. -/
structure Reading where
  pieces : List Piece
  brackets : List Bracket
  last : Option Char
  failed : List Nat

namespace Reading

/-- Adds a piece, given the character that it ends with. -/
def push (piece : Piece) (last : Option Char) (r : Reading) : Reading :=
  { r with pieces := piece :: r.pieces, last }

/-- Adds text. -/
def pushText (cs : List Char) (r : Reading) : Reading :=
  r.push (.done (.text cs)) (cs.getLast?.or r.last)

/-- A bracket as text. -/
def Bracket.text (bracket : Bracket) : Piece :=
  .done (.text (if bracket.image then ['!', '['] else ['[']))

/-- The innermost bracket becomes text. -/
def dropBracket (r : Reading) : Reading :=
  match r.brackets with
  | [] => r
  | bracket :: brackets =>
    { r with brackets, pieces := r.pieces ++ Bracket.text bracket :: bracket.before }

/-- All waiting brackets become text. -/
def dropBrackets (r : Reading) : Reading := Nat.repeat dropBracket r.brackets.length r

/-- The pieces read, with all waiting brackets as text. -/
def finish (r : Reading) : List Inline := Piece.resolve r.dropBrackets.pieces.reverse

/-- Whether a run of delimiters or a quotation mark may open: something other than blank space
follows, and the character before it does not hold it back. -/
def canOpen (c : Char) (length : Nat) (before after : Option Char) : Bool :=
  match before, after with
  | _, none => false
  | none, some next => !isBlank next
  | some previous, some next =>
    if isBlank next then false
    else if c == '*' && !isPunctuation next then true
    else if c == '~' && 1 < length then true
    else if c == '~' && previous == '~' && !isPunctuation next then true
    else isBlank previous ||
      (isPunctuation previous && (c != '\'' || (previous != ']' && previous != ')')))

/-- Whether a run of delimiters or a quotation mark may close. -/
def canClose (c : Char) (length : Nat) (before after : Option Char) : Bool :=
  match before, after with
  | none, _ => false
  | some previous, none => !isBlank previous
  | some previous, some next =>
    if isBlank previous then false
    else if (c == '*' || (c == '~' && 1 < length)) && !isPunctuation previous then true
    else if c == '~' && previous == '~' then true
    else isBlank next || isPunctuation next

private def nextChar (atoms : List Atom) : Option Char := atoms.head?.map Atom.toChar

private def charRun (c : Char) (atoms : List Atom) : Nat := (atoms.takeWhile (·.isChar c)).length

/-- The em dashes and en dashes that a run of two or more hyphens stands for. -/
def dashes (count : Nat) : List Char :=
  let (ems, ens) :=
    match count % 6 with
    | 0 | 3 => (count / 3, 0)
    | 2 | 4 => (0, count / 2)
    | 1 => (count / 3 - 1, 2)
    | _ => (count / 3, 1)
  List.replicate ems '—' ++ List.replicate ens '–'

/-- Where the next run of exactly this many backticks begins. -/
def codeEnd? (length : Nat) (atoms : List Atom) : Option Nat :=
  match atoms with
  | [] => none
  | a :: rest =>
    if a.isChar backtick then
      let more := charRun backtick rest
      if more + 1 = length then some 0
      else (codeEnd? length (rest.drop more)).map (· + (more + 1))
    else (codeEnd? length rest).map (· + 1)
termination_by atoms.length
decreasing_by all_goals simp only [List.length_cons, List.length_drop]; omega

/-- The text of a code span: turns become spaces, and a cell's escaped bars become bars. -/
def codeText (inTable : Bool) : List Atom → List Char
  | [] => []
  | .turn t :: rest => t.ending.map (fun _ => ' ') ++ t.indent ++ codeText inTable rest
  | .char '\\' :: .char '|' :: rest =>
    if inTable then '|' :: codeText inTable rest else '\\' :: '|' :: codeText inTable rest
  | .char c :: rest => c :: codeText inTable rest

/-- One space is taken off both ends of a code span that has one at each and more than spaces. -/
def trimCode (cs : List Char) : List Char :=
  if cs.head? == some ' ' && cs.getLast? == some ' ' && !cs.all (· == ' ') then
    (cs.drop 1).dropLast
  else cs

/-- Reads a code span behind its opening backticks: the span and the atoms it takes. -/
def codeSpan? (inTable : Bool) (length : Nat) (atoms : List Atom) : Option (Inline × Nat) :=
  (codeEnd? length atoms).map fun place =>
    (.code (trimCode (codeText inTable (atoms.take place))), place + length)

/-- What a label between brackets refers to. -/
inductive LabelKind where
  | footnote
  | reference
  deriving DecidableEq

/-- Reads a label behind its opening bracket: its kind, its text and the atoms it takes. -/
def readLabel? (inTable : Bool) (atoms : List Atom) : Option (LabelKind × List Char × Nat) :=
  match footnoteLabel? inTable atoms with
  | some (label, used) => some (.footnote, label, used)
  | none => (label? true inTable atoms).map fun read => (.reference, read.1, read.2)

/-- Closes the innermost bracket as a link or an image. No link may hold another one. -/
def closeLink (bracket : Bracket) (outer : List Bracket) (target : Target) (last : Char)
    (r : Reading) : Reading :=
  let body := Piece.resolve r.pieces.reverse
  let inline := if bracket.image then Inline.image target body else .link target body
  { r with
    pieces := .done inline :: bracket.before
    brackets :=
      if bracket.image then outer
      else outer.map fun b => { b with live := b.live && b.image }
    last := some last }

/-- A closing bracket that closes nothing: it is text, and so is the bracket that it closes. -/
def closeNothing (r : Reading) : Reading := r.dropBracket.pushText [']']

/-- Puts a footnote reference in the place of the innermost bracket; what waits becomes text. -/
def closeFootnote (bracket : Bracket) (outer : List Bracket) (label : List Char) (r : Reading) :
    Reading :=
  let before := if bracket.image then .done (.text ['!']) :: bracket.before else bracket.before
  { r with pieces := before, brackets := outer }.dropBrackets.push (.done (.footnote label))
    (some ']')

/-- Reads a closing bracket, given what follows it; the number tells how many of those atoms are
used up. An inline target comes first, then a reference by the label that follows, then one by the
text between the brackets. -/
def closeBracket (ctx : ReadingContext) (rest : List Atom) (r : Reading) : Reading × Nat :=
  match r.brackets with
  | [] => (r.pushText [']'], 0)
  | bracket :: outer =>
    if !bracket.live then (r.closeNothing, 0)
    else
      match
        if rest.head? == some (.char '(') then inlineTarget? ctx.inTable (rest.drop 1) else none
      with
      | some (target, used) => (r.closeLink bracket outer target ')', used + 1)
      | none =>
        let collapsed := (ofText ['[', ']']).isPrefixOf rest
        let following :=
          if rest.head? == some (.char '[') && !collapsed then readLabel? ctx.inTable (rest.drop 1)
          else none
        match following with
        | some (.reference, label, used) =>
          match ctx.document.target? label with
          | some target => (r.closeLink bracket outer target ']', used + 1)
          | none => ({ r with failed := (rest.length - used) :: r.failed }.closeNothing, 0)
        | _ =>
          if r.failed.contains (rest.length + 1) then (r.closeNothing, 0)
          else
            match readLabel? ctx.inTable bracket.label with
            | some (kind, label, used) =>
              if bracket.label.length - used ≠ rest.length then (r.closeNothing, 0)
              else
                match kind with
                | .footnote =>
                  if ctx.document.hasFootnote label then
                    (r.closeFootnote bracket outer label, 0)
                  else (r.closeNothing, 0)
                | .reference =>
                  match ctx.document.target? label with
                  | some target =>
                    (r.closeLink bracket outer target ']', if collapsed then 2 else 0)
                  | none => (r.closeNothing, 0)
            | none => (r.closeNothing, 0)

/-- Opens a bracket. -/
def openBracket (image : Bool) (label : List Atom) (r : Reading) : Reading :=
  { r with
    pieces := []
    brackets := ⟨image, true, label, r.pieces⟩ :: r.brackets
    last := some '[' }

/-- The characters at which plain text may end. -/
def isSpecial (c : Char) : Bool :=
  isGap c || c == backtick || "*_~&\\[]<!.-\"'".toList.contains c

/-- Reads blank space: before a turn or the end it is no text, and two or more blanks before a turn
break the line. -/
def readGap (c : Char) (rest : List Atom) (r : Reading) : Reading × Nat :=
  let more := rest.takeWhile Atom.isGap
  match rest.drop more.length with
  | [] => (r, more.length)
  | .turn _ :: _ =>
    (r.push (.done (if more.isEmpty then .softBreak else .hardBreak)) none, more.length + 1)
  | _ => (r.pushText (c :: more.map Atom.toChar), more.length)

/-- Reads what follows a backslash. -/
def readEscape (ctx : ReadingContext) (rest : List Atom) (r : Reading) : Reading × Nat :=
  match rest with
  | .turn _ :: _ => (r.push .escapedBreak none, 1)
  | .char d :: behind =>
    if !isAsciiPunctuation d then (r.pushText ['\\'], 0)
    else if ctx.inTable && d == '\\' && behind.head? == some (.char '|') then
      (r.pushText ['|'], 2)
    else if d == backtick then
      let more := charRun backtick behind
      match if more = 0 then none else codeSpan? ctx.inTable more (behind.drop more) with
      | some (code, used) =>
        ((r.pushText [backtick]).push (.done code) (some backtick), 1 + more + used)
      | none => (r.pushText (List.replicate (more + 1) backtick), 1 + more)
    else (r.pushText [d], 1)
  | [] => (r.pushText ['\\'], 0)

/-- Reads a run of delimiters. -/
def readRun (c : Char) (rest : List Atom) (r : Reading) : Reading × Nat :=
  let more := charRun c rest
  let after := nextChar (rest.drop more)
  let opens := canOpen c (more + 1) r.last after
  let closes := canClose c (more + 1) r.last after
  if (opens || closes) && (c != '~' || more ≤ 1) then
    (r.push (.run c (more + 1) opens closes) (some c), more)
  else (r.pushText (List.replicate (more + 1) c), more)

/-- Reads what an opening angle bracket begins: an address, raw HTML, or nothing. -/
def readAngle (rest : List Atom) (r : Reading) : Reading × Nat :=
  let line := lineChars rest
  match autolink? line with
  | some (kind, length) =>
    let address := line.take length
    let destination :=
      match kind with
      | .uri => address
      | .mailbox => "mailto:".toList ++ address
    (r.push (.done (.link ⟨destination, []⟩ [.text address])) (some '>'), length + 1)
  | none =>
    match inlineHtml? rest with
    | some (html, used) => (r.push (.done (.html ('<' :: html))) (some '>'), used)
    | none => (r.pushText ['<'], 0)

/-- Reads what begins with a character, given what follows it; the number tells how many of those
atoms are used up. -/
def readChar (ctx : ReadingContext) (c : Char) (rest : List Atom) (r : Reading) : Reading × Nat :=
  if isGap c then r.readGap c rest
  else if c == '\\' then r.readEscape ctx rest
  else if c == '*' || c == '_' || c == '~' then r.readRun c rest
  else if c == backtick then
    let more := charRun backtick rest
    match codeSpan? ctx.inTable (more + 1) (rest.drop more) with
    | some (code, used) => (r.push (.done code) (some backtick), more + used)
    | none => (r.pushText (List.replicate (more + 1) backtick), more)
  else if c == '<' then r.readAngle rest
  else if c == '!' && rest.head? == some (.char '[') then (r.openBracket true (rest.drop 1), 1)
  else if c == '[' then (r.openBracket false rest, 0)
  else if c == ']' then r.closeBracket ctx rest
  else if c == '&' then
    match reference? (lineChars rest) with
    | some (value, used) => ({ r.pushText value with last := some ';' }, used)
    | none => (r.pushText ['&'], 0)
  else if c == '.' && (ofText ['.', '.']).isPrefixOf rest then
    ({ r.pushText ['…'] with last := some '.' }, 2)
  else if c == '-' && rest.head? == some (.char '-') then
    let more := charRun '-' rest
    ({ r.pushText (dashes (more + 1)) with last := some '-' }, more)
  else if c == '"' || c == '\'' then
    let after := nextChar rest
    (r.push (.quote c (canOpen c 1 r.last after) (canClose c 1 r.last after)) (some c), 0)
  else
    let more := (lineChars rest).takeWhile fun d => !isSpecial d
    (r.pushText (c :: more), more.length)

/-- Reads all of a content. -/
def run (ctx : ReadingContext) (r : Reading) (atoms : List Atom) : Reading :=
  match atoms with
  | [] => r
  | .turn _ :: rest => run ctx (r.push (.done .softBreak) none) rest
  | .char c :: rest =>
    let (r, used) := r.readChar ctx c rest
    run ctx r (rest.drop used)
termination_by atoms.length
decreasing_by all_goals simp only [List.length_cons, List.length_drop]; omega

end Reading

/-- The inline markup of a leaf's content. -/
def inlinesOf (ctx : ReadingContext) (atoms : List Atom) : List Inline :=
  (Reading.run ctx ⟨[], [], none, []⟩ atoms).finish

end Handbook.Markdown
