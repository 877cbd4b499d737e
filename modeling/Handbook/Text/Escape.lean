/-! Writing text into HTML. Four characters have a reference of their own; a text escaped in this
way holds none of `<`, `>` and `"`, and `unescape` reads it back. -/
namespace Handbook.Text

/-- The escaped form of one character: a reference for the four characters that markup is made
of. -/
def escapeChar : Char → List Char
  | '&' => "&amp;".toList
  | '<' => "&lt;".toList
  | '>' => "&gt;".toList
  | '"' => "&quot;".toList
  | c => [c]

/-- A text that stands for itself between tags and inside double quotes. -/
def escape (cs : List Char) : List Char := cs.flatMap escapeChar

/-- Replaces the four references by the characters they stand for and keeps all else. -/
def unescape : List Char → List Char
  | '&' :: 'a' :: 'm' :: 'p' :: ';' :: cs => '&' :: unescape cs
  | '&' :: 'l' :: 't' :: ';' :: cs => '<' :: unescape cs
  | '&' :: 'g' :: 't' :: ';' :: cs => '>' :: unescape cs
  | '&' :: 'q' :: 'u' :: 'o' :: 't' :: ';' :: cs => '"' :: unescape cs
  | c :: cs => c :: unescape cs
  | [] => []

theorem escape_cons (c : Char) (cs : List Char) :
    escape (c :: cs) = escapeChar c ++ escape cs := rfl

end Handbook.Text
