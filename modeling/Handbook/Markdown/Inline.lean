import Handbook.Markdown.Target

/-! Inline markup. A leaf's content is read into pieces, of which the runs of `*`, `_` and `~` and
the straight quotation marks still wait for partners; resolving the pieces leaves a tree. -/
namespace Handbook.Markdown

/-- Running text with its markup. -/
inductive Inline where
  | text (cs : List Char)
  | code (cs : List Char)
  | html (cs : List Char)
  | softBreak
  | hardBreak
  | emphasis (body : List Inline)
  | strong (body : List Inline)
  | strikethrough (body : List Inline)
  | link (target : Target) (body : List Inline)
  | image (target : Target) (body : List Inline)
  | footnote (label : List Char)

/-- A stretch of content: finished inline markup, a run of delimiters or a quotation mark that may
open or close, or a line break written as a backslash. -/
inductive Piece where
  | done (inline : Inline)
  | run (char : Char) (length : Nat) (opens closes : Bool)
  | quote (char : Char) (opens closes : Bool)
  | escapedBreak

namespace Piece

/-- Whether the next single quotation mark to matter closes one that is open here; a mark that only
opens takes its place. -/
def closedLater : List Piece → Bool
  | [] => false
  | .quote '\'' opens closes :: rest => closes || (!opens && closedLater rest)
  | _ :: rest => closedLater rest

/-- Replaces quotation marks by curved ones. A single mark opens only if another one closes it; a
double mark closes only if one is open. -/
def curveQuotes (singleOpen doubleOpen : Bool) : List Piece → List Piece
  | [] => []
  | .quote c opens closes :: rest =>
    if c == '\'' then
      if singleOpen && closes then
        .done (.text ['’']) :: curveQuotes false doubleOpen rest
      else if opens then
        .done (.text [if closedLater rest then '‘' else '’']) :: curveQuotes true doubleOpen rest
      else .done (.text ['’']) :: curveQuotes singleOpen doubleOpen rest
    else if doubleOpen && closes then
      .done (.text ['”']) :: curveQuotes singleOpen false rest
    else .done (.text ['“']) :: curveQuotes singleOpen (doubleOpen || opens) rest
  | piece :: rest => piece :: curveQuotes singleOpen doubleOpen rest

/-- A run of delimiters that waits for its partner: what is left of its length, whether it could
close as well, and what stands before it, the latest first. -/
structure Opener where
  char : Char
  length : Nat
  left : Nat
  both : Bool
  before : List Inline

/-- The resolved part of a list of pieces: the waiting openers, the innermost first, what follows
the innermost, the latest first, and the number of outermost openers that a tilde no longer
reaches. -/
structure Pairing where
  openers : List Opener
  after : List Inline
  tildeFloor : Nat

private def delimiters (c : Char) (n : Nat) : Inline := .text (List.replicate n c)

/-- Whether a closing run pairs with an opener. Runs that can do both pair only if their lengths do
not add up to a multiple of three, or both are one; tildes pair with as many tildes. -/
def Opener.pairsWith (opener : Opener) (c : Char) (length : Nat) (both : Bool) : Bool :=
  opener.char == c && (c != '~' || opener.length == length) &&
    ((!both && !opener.both) || (opener.length + length) % 3 != 0 || length % 3 == 0)

/-- The content between two runs that pair over this many delimiters: two of them are strong
emphasis, and a single one left over is emphasis around all. -/
def wrapped (c : Char) : Nat → List Inline → List Inline
  | 0, body => body
  | 1, body => if c == '~' then [.strikethrough body] else [.emphasis body]
  | n + 2, body => wrapped c n (if c == '~' then [.strikethrough body] else [.strong body])

namespace Pairing

/-- Adds what is not a delimiter. -/
def add (inline : Inline) (p : Pairing) : Pairing := { p with after := inline :: p.after }

/-- Gives up the innermost opener: its delimiters are text. -/
def giveUp (p : Pairing) : Pairing :=
  match p.openers with
  | [] => p
  | opener :: openers =>
    { p with openers, after := p.after ++ delimiters opener.char opener.left :: opener.before }

/-- The place of the innermost opener that a closing run pairs with. -/
def partner? (c : Char) (length : Nat) (both : Bool) (p : Pairing) : Option Nat :=
  let reach := if c == '~' then p.openers.length - p.tildeFloor else p.openers.length
  (p.openers.take reach).findIdx? (·.pairsWith c length both)

/-- Pairs the innermost opener with a closing run over as many delimiters as both have. -/
def pair (count : Nat) (p : Pairing) : Pairing :=
  match p.openers with
  | [] => p
  | opener :: openers =>
    let body := wrapped opener.char (min count opener.left) p.after.reverse
    let floor := min p.tildeFloor openers.length
    if count < opener.left then
      ⟨{ opener with left := opener.left - count } :: openers, body, floor⟩
    else ⟨openers, body ++ opener.before, floor⟩

/-- Closes what a run of delimiters can close; the number tells how many delimiters are left. -/
def close (c : Char) (length : Nat) (both : Bool) (count : Nat) (p : Pairing) : Nat × Pairing :=
  match count with
  | 0 => (0, p)
  | n + 1 =>
    match p.partner? c length both with
    | none => (n + 1, if c == '~' then { p with tildeFloor := p.openers.length } else p)
    | some place =>
      let p := Nat.repeat giveUp place p
      let used := (p.openers.head?.map (min (n + 1) ·.left)).getD 1
      close c length both (n + 1 - max 1 used) (p.pair (n + 1))
termination_by count

/-- Takes a piece in. -/
def step (p : Pairing) : Piece → Pairing
  | .done inline => p.add inline
  | .escapedBreak => p.add .hardBreak
  | .quote c _ _ => p.add (.text [c])
  | .run c length opens closes =>
    let both := opens && closes
    let (left, p) := if closes then p.close c length both length else (length, p)
    if left = 0 then p
    else if opens then
      { p with openers := ⟨c, length, left, both, p.after⟩ :: p.openers, after := [] }
    else p.add (delimiters c left)

/-- Gives up all openers and answers with the whole list. -/
def finish (p : Pairing) : List Inline := (Nat.repeat giveUp p.openers.length p).after.reverse

end Pairing

/-- Whether a piece was waiting for a partner. -/
def waits : Piece → Bool
  | .run .. => true
  | .quote .. => true
  | _ => false

/-- A backslash at the very end breaks no line; it is text where other pieces wait beside it. -/
def settleEnd (pieces : List Piece) : List Piece :=
  match pieces.getLast? with
  | some .escapedBreak =>
    if pieces.any waits then pieces.dropLast ++ [.done (.text ['\\'])] else pieces
  | _ => pieces

/-- Resolves a list of pieces. -/
def resolve (pieces : List Piece) : List Inline :=
  ((curveQuotes false false (settleEnd pieces)).foldl Pairing.step ⟨[], [], 0⟩).finish

end Piece

end Handbook.Markdown
