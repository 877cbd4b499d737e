/-! Routes. A route is written as a pattern in which a doubled brace stands for the brace itself. A
single brace, and a colon or an asterisk at the start of a segment, belong to captures, of which
this site has none: a pattern with one of them is refused. -/
namespace Handbook.Http

/-- The text that a pattern matches, reading doubled braces as one. -/
def unbrace? : List Char → Option (List Char)
  | [] => some []
  | '\x7b' :: '\x7b' :: rest => (unbrace? rest).map ('\x7b' :: ·)
  | '\x7d' :: '\x7d' :: rest => (unbrace? rest).map ('\x7d' :: ·)
  | c :: rest => if c == '\x7b' || c == '\x7d' then none else (unbrace? rest).map (c :: ·)

/-- Whether a segment starts like a capture. -/
def startsCapture : List Char → Bool
  | c :: _ => c == ':' || c == '*'
  | [] => false

/-- The path that a pattern of one segment matches, if it is a plain pattern. -/
def routePath? (segment : List Char) : Option (List Char) :=
  if startsCapture segment then none else (unbrace? segment).map ('/' :: ·)

end Handbook.Http
