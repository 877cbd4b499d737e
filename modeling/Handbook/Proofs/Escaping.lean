import Handbook.Text.Escape
import Mathlib.Data.List.Basic

/-! What escaping guarantees. An escaped text holds none of the characters with which tags and the
values of attributes begin and end, so it can be told from the markup that follows it, and it reads
back as the text that it stands for. -/
namespace Handbook.Escaping
open Text

/-- The characters with which tags and the values of attributes begin and end. -/
def isMark (c : Char) : Bool := c == '<' || c == '>' || c == '"'

/-- The marks of a piece of markup in their order, which is the structure of its tags. -/
def marks (markup : List Char) : List Char := markup.filter isMark

theorem marks_append (left right : List Char) : marks (left ++ right) = marks left ++ marks right :=
  List.filter_append ..

private theorem escapeChar_unmarked (c : Char) :
    ∀ written ∈ escapeChar c, isMark written = false := by
  unfold escapeChar
  split
  · simp [isMark]
  · simp [isMark]
  · simp [isMark]
  · simp [isMark]
  · rename_i _ less greater quote
    simpa [isMark] using ⟨⟨less, greater⟩, quote⟩

/-- Nothing in an escaped text begins or ends a tag or a value. -/
theorem escape_unmarked (cs : List Char) : ∀ c ∈ escape cs, isMark c = false := by
  intro c member
  obtain ⟨original, _, written⟩ := List.mem_flatMap.mp member
  exact escapeChar_unmarked original c written

theorem not_mem_escape (mark : isMark c = true) (cs : List Char) : c ∉ escape cs := by
  intro member
  rw [escape_unmarked cs c member] at mark
  cases mark

@[simp] theorem marks_escape (cs : List Char) : marks (escape cs) = [] :=
  List.filter_eq_nil_iff.mpr fun c member => Bool.eq_false_iff.mp (escape_unmarked cs c member)

/-! ## Reading back -/

private theorem unescape_cons_plain (plain : c ≠ '&') (rest : List Char) :
    unescape (c :: rest) = c :: unescape rest := by
  rw [unescape]
  all_goals
    intro _ same
    exact absurd same plain

/-- Each character reads back from its own escaped form, whatever follows it. -/
theorem unescape_escapeChar_append (c : Char) (rest : List Char) :
    unescape (escapeChar c ++ rest) = c :: unescape rest := by
  unfold escapeChar
  split
  · simp [unescape]
  · simp [unescape]
  · simp [unescape]
  · simp [unescape]
  · rename_i ampersand _ _ _
    exact unescape_cons_plain ampersand rest

theorem unescape_escape (cs : List Char) : unescape (escape cs) = cs := by
  induction cs with
  | nil => rfl
  | cons c rest ih => rw [escape_cons, unescape_escapeChar_append, ih]

theorem escape_injective : Function.Injective escape :=
  Function.LeftInverse.injective unescape_escape

/-! ## Telling a text from what follows it -/

/-- Markup that begins with a mark, as tags do and the end of a value does. -/
def Marked (markup : List Char) : Prop := ∃ mark rest, markup = mark :: rest ∧ isMark mark = true

/-- Texts without marks that are followed by marked markup can only be the same text before the same
markup. -/
theorem unmarked_append_inj (leftPlain : ∀ c ∈ left, isMark c = false)
    (rightPlain : ∀ c ∈ right, isMark c = false) (leftMarked : Marked leftRest)
    (rightMarked : Marked rightRest) (same : left ++ leftRest = right ++ rightRest) :
    left = right ∧ leftRest = rightRest := by
  obtain ⟨first, leftRest, rfl, firstMark⟩ := leftMarked
  obtain ⟨second, rightRest, rfl, secondMark⟩ := rightMarked
  have fronts := congrArg (List.takeWhile fun c => !isMark c) same
  have backs := congrArg (List.dropWhile fun c => !isMark c) same
  rw [List.takeWhile_append_of_pos (by simpa using leftPlain),
    List.takeWhile_append_of_pos (by simpa using rightPlain)] at fronts
  rw [List.dropWhile_append_of_pos (by simpa using leftPlain),
    List.dropWhile_append_of_pos (by simpa using rightPlain)] at backs
  exact ⟨by simpa [firstMark, secondMark] using fronts,
    by simpa [firstMark, secondMark] using backs⟩

/-- An escaped text and the markup behind it are both known from the two together. -/
theorem escape_append_inj (leftMarked : Marked left) (rightMarked : Marked right)
    (same : escape as ++ left = escape bs ++ right) : as = bs ∧ left = right := by
  obtain ⟨written, rest⟩ :=
    unmarked_append_inj (escape_unmarked as) (escape_unmarked bs) leftMarked rightMarked same
  exact ⟨escape_injective written, rest⟩

end Handbook.Escaping
