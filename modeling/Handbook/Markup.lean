import Handbook.Text.Escape

/-! Markup: HTML as a sequence of characters. Texts and the values of attributes are escaped where
they enter; what stands between two tags is markup already. -/
namespace Handbook
open Text

/-- A piece of HTML. -/
abbrev Markup := List Char

namespace Markup

/-- A text as it shows between tags. -/
def text (s : String) : Markup := escape s.toList

/-- An attribute, with the space in front of it. -/
def attr (name value : String) : Markup :=
  ' ' :: name.toList ++ '=' :: '"' :: escape value.toList ++ ['"']

/-- A start tag. -/
def openTag (name : String) (attributes : List (String × String)) : Markup :=
  '<' :: name.toList ++ attributes.flatMap (fun (key, value) => attr key value) ++ ['>']

/-- An end tag. -/
def closeTag (name : String) : Markup := '<' :: '/' :: name.toList ++ ['>']

/-- An element with its content. -/
def element (name : String) (attributes : List (String × String)) (body : Markup) : Markup :=
  openTag name attributes ++ body ++ closeTag name

end Markup

end Handbook
