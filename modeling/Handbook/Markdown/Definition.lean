import Handbook.Markdown.Label
import Handbook.Markdown.Target

/-! Link reference definitions: a label, a colon, a destination and perhaps a title. -/
namespace Handbook.Markdown

/-- A definition with the target that references to its label lead to. -/
structure Definition where
  label : List Char
  target : Target
  deriving Repr, DecidableEq

private def turns (atoms : List Atom) : Nat :=
  atoms.countP fun
    | .turn _ => true
    | .char _ => false

/-- The text behind a gap that may hold one turn, with whether it does; none where the content
ends or a second turn follows. -/
def pastGap? (atoms : List Atom) : Option (List Atom × Bool) :=
  match atoms.dropWhile Atom.isGap with
  | [] => none
  | .turn _ :: rest =>
    match rest.dropWhile Atom.isGap with
    | [] => none
    | .turn _ :: _ => none
    | rest => some (rest, true)
  | rest => some (rest, false)

/-- Whether nothing but gaps is left of the line. -/
def lineDone (atoms : List Atom) : Bool := allGap (lineChars atoms)

/-- Reads a definition at the start of a content, with the number of lines that it crosses. -/
def definition? (atoms : List Atom) : Option (Definition × Nat) := do
  guard (atoms.head? == some (.char '['))
  let (label, taken) ← label? true false (atoms.drop 1)
  let behind := atoms.drop (taken + 1)
  guard (behind.head? == some (.char ':'))
  let (start, _) ← pastGap? (behind.drop 1)
  let (destination, taken) ← destination? definitionNesting start
  guard (taken ≠ 0)
  let after := start.drop taken
  let crossed (rest : List Atom) : Nat := turns (atoms.take (atoms.length - rest.length))
  let untitled : Definition × Nat := (⟨label, ⟨unescapeText false destination, []⟩⟩, crossed after)
  match pastGap? after with
  | none => pure untitled
  | some (rest, turned) =>
    if rest.length = after.length then none
    else
      match definitionTitle? rest with
      | some (title, taken) =>
        let behind := rest.drop taken
        if lineDone behind then
          pure (⟨label, ⟨unescapeText false destination, unescapeText false title⟩⟩, crossed behind)
        else if turned then pure untitled
        else none
      | none => if turned then pure untitled else none

end Handbook.Markdown
