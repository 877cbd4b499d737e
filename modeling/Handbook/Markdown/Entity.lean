import Handbook.Markdown.EntityNames
import Handbook.Markdown.Character
import Handbook.Text.Hex

/-! Character references and backslash escapes, the two ways to write a character by other means. -/
namespace Handbook.Markdown
open Handbook.Text

/-- Pairs every name with the text its codes stand for. -/
def entityPairs : List String → List (List Char × List Char)
  | name :: codes :: rest =>
    (name.toList, (codes.splitOn ",").map fun code => Char.ofNat (hexNumber code.toList)) ::
      entityPairs rest
  | _ => []

/-- The named references with the texts they stand for. -/
def entities : List (List Char × List Char) := entityPairs (entityWords.flatMap (·.splitOn " "))

/-- The character of a numeric reference; U+FFFD stands in for NUL and for what is no character. -/
def referencedChar (n : Nat) : Char :=
  if n = 0 ∨ ¬ n.isValidChar then '\uFFFD' else Char.ofNat n

/-- Reads digits of a numeric reference, at most `most` of them, and the semicolon. The count
covers both. -/
def numericReference? (isDigit : Char → Bool) (value : List Char → Nat) (most : Nat)
    (cs : List Char) : Option (List Char × Nat) :=
  let digits := (cs.take most).takeWhile isDigit
  if digits.isEmpty || (cs.drop digits.length).head? != some ';' then none
  else some ([referencedChar (value digits)], digits.length + 1)

/-- Reads a character reference behind its ampersand: the text it stands for and the number of
characters it takes. -/
def reference? (cs : List Char) : Option (List Char × Nat) :=
  match cs with
  | '#' :: x :: rest =>
    if x == 'x' || x == 'X' then
      (numericReference? (fun c => (hexValue? c).isSome) hexNumber 6 rest).map
        fun read => (read.1, read.2 + 2)
    else
      (numericReference? Char.isDigit decimalNumber 7 (x :: rest)).map
        fun read => (read.1, read.2 + 1)
  | _ =>
    let name := cs.takeWhile Char.isAlphanum
    if (cs.drop name.length).head? != some ';' then none
    else (entities.lookup name).map fun value => (value, name.length + 1)

/-- Replaces backslash escapes and character references by what they stand for, and drops carriage
returns. In a table, two backslashes before a bar are one escape. -/
def unescapeText (inTable : Bool) (cs : List Char) : List Char :=
  match cs with
  | [] => []
  | '\\' :: c :: rest =>
    if inTable && c == '\\' && rest.head? == some '|' then
      '|' :: unescapeText inTable (rest.drop 1)
    else if isAsciiPunctuation c then c :: unescapeText inTable rest
    else '\\' :: unescapeText inTable (c :: rest)
  | '\r' :: rest => unescapeText inTable rest
  | '&' :: rest =>
    match reference? rest with
    | some (value, used) => value ++ unescapeText inTable (rest.drop used)
    | none => '&' :: unescapeText inTable rest
  | c :: rest => c :: unescapeText inTable rest
termination_by cs.length
decreasing_by all_goals simp only [List.length_cons, List.length_drop]; omega

end Handbook.Markdown
