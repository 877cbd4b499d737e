import Handbook.Text.Punctuation

/-! Character classes of Markdown's grammar. Except where punctuation is meant in full, the grammar
knows ASCII only. -/
namespace Handbook.Markdown

/-- Blank space inside a line: space, tab, vertical tab and form feed. -/
def isGap (c : Char) : Bool := c == ' ' || c == '\t' || c == '\x0b' || c == '\x0c'

/-- A gap or one of the two characters that end lines. -/
def isSpace (c : Char) : Bool := isGap c || c == '\n' || c == '\r'

/-- The character that fences code. -/
def backtick : Char := '\x60'

/-- Whether nothing but gaps stands in the text. -/
def allGap (cs : List Char) : Bool := cs.all isGap

/-- The text without its trailing gaps. -/
def trimGapEnd (cs : List Char) : List Char := (cs.reverse.dropWhile isGap).reverse

/-- The text without leading and trailing gaps. -/
def trimGap (cs : List Char) : List Char := trimGapEnd (cs.dropWhile isGap)

/-- How often a character is repeated at the start of a text. -/
def runLength (c : Char) (cs : List Char) : Nat := (cs.takeWhile (· == c)).length

/-- Whether a text occurs in another one. -/
def occursIn (needle : List Char) : List Char → Bool
  | [] => needle.isEmpty
  | c :: cs => needle.isPrefixOf (c :: cs) || occursIn needle cs

end Handbook.Markdown
