import Handbook.Markdown.Html
import Mathlib.Data.List.Basic

/-! What a writer has written. All that is written goes through `put`, and what is put one after the
other is put in one piece: a document is written once it is known what each of its parts puts. -/
namespace Handbook.Writing
open Markdown

@[simp] theorem put_nil (w : Writer) : w.put [] = w := rfl

/-- What is written first is all that is written so far. -/
theorem put_empty_html (cs : List Char) : (Writer.empty.put cs).html.reverse = cs := by
  cases last : cs.getLast? with
  | none =>
    rw [List.getLast?_eq_none_iff] at last
    rw [last]
    rfl
  | some c =>
    simp only [Writer.put, last, Writer.empty, List.append_nil, List.reverse_reverse]

/-- Two texts in a row are one text. -/
@[simp] theorem put_put (left right : List Char) (w : Writer) :
    (w.put left).put right = w.put (left ++ right) := by
  cases last : right.getLast? with
  | none =>
    rw [List.getLast?_eq_none_iff] at last
    rw [last, put_nil, List.append_nil]
  | some c =>
    have whole : (left ++ right).getLast? = some c := by
      rw [List.getLast?_append, last, Option.some_or]
    cases before : left.getLast? with
    | none =>
      rw [List.getLast?_eq_none_iff] at before
      rw [before, put_nil, List.nil_append]
    | some d =>
      simp only [Writer.put, last, before, whole, List.reverse_append, List.append_assoc]

theorem tag_eq_put (s : String) (w : Writer) : w.tag s = w.put s.toList := rfl

/-- Behind a line feed a line starts. -/
theorem atLineStart_put_feed (cs : List Char) (w : Writer) :
    (w.put (cs ++ ['\n'])).atLineStart = true := by
  simp [Writer.put]

theorem freshLine_of_atLineStart {w : Writer} (start : w.atLineStart = true) : w.freshLine = w :=
  if_pos start

/-- A text in which every character stands for itself is written between tags as it is. -/
theorem bodyText_of_plain (plain : ∀ c ∈ cs, bodyChar c = [c]) : bodyText cs = cs := by
  rw [bodyText, List.flatMap_congr plain, List.flatMap_singleton']

theorem attributeText_of_plain (plain : ∀ c ∈ cs, attributeChar c = [c]) :
    attributeText cs = cs := by
  rw [attributeText, List.flatMap_congr plain, List.flatMap_singleton']

end Handbook.Writing
