import Handbook.Text.Printable
import Handbook.Text.Hex

/-! Quoted texts, as error messages show them. A quoted text is one line: tabs, line ends and NUL
have short escapes, and every character that shows nothing of its own is written by its code. -/
namespace Handbook.Text

/-- The quoted form of one character. -/
def quoteChar (c : Char) : List Char :=
  match c with
  | '\t' => ['\\', 't']
  | '\n' => ['\\', 'n']
  | '\r' => ['\\', 'r']
  | '\x00' => ['\\', '0']
  | '\\' => ['\\', '\\']
  | '"' => ['\\', '"']
  | c =>
    if isExtending c || !isPrintable c then
      '\\' :: 'u' :: '\x7b' :: lowerHex c.toNat ++ ['\x7d']
    else [c]

/-- A text between double quotes. -/
def quote (s : String) : String :=
  String.ofList ('"' :: s.toList.flatMap quoteChar ++ ['"'])

end Handbook.Text
