import Handbook.Markdown.Builder
import Mathlib.Data.List.Basic

/-! Documents written line by line. A document whose lines are all ended by line feeds is read as
these lines, and outside of every container a line begins where it is written. -/
namespace Handbook.SourceLines
open Markdown

/-- A line that holds no line end of its own. -/
def Unbroken (line : List Char) : Prop := ∀ c ∈ line, c ≠ '\n' ∧ c ≠ '\r'

/-- A document of lines, each of them ended. -/
def document (lines : List (List Char)) : List Char := lines.flatMap fun line => line ++ ['\n']

/-- A line as it stands in such a document. -/
def fed (line : List Char) : Line := ⟨line, ['\n']⟩

theorem linesOf_feed (rest : List Char) : linesOf ('\n' :: rest) = fed [] :: linesOf rest := by
  rw [linesOf]
  rfl

/-- A character that ends no line goes before the first of the lines behind it. -/
theorem linesOf_solid {c : Char} (unbroken : c ≠ '\n' ∧ c ≠ '\r') (cs : List Char) :
    linesOf (c :: cs) =
      match linesOf cs with
      | line :: lines => ⟨c :: line.text, line.ending⟩ :: lines
      | [] => [⟨[c], []⟩] := by
  rw [linesOf.eq_def]
  split
  · rename_i empty
    cases empty
  · rename_i same
    cases same
    exact absurd rfl unbroken.1
  · rename_i same
    cases same
    exact absurd rfl unbroken.2
  · rename_i same
    cases same
    exact absurd rfl unbroken.2
  · rename_i same
    cases same
    rfl

theorem linesOf_cons {c : Char} (unbroken : c ≠ '\n' ∧ c ≠ '\r')
    (rest : linesOf cs = line :: lines) :
    linesOf (c :: cs) = ⟨c :: line.text, line.ending⟩ :: lines := by
  rw [linesOf_solid unbroken, rest]

/-- One character alone is a line without an ending. -/
theorem linesOf_single {c : Char} (unbroken : c ≠ '\n' ∧ c ≠ '\r') :
    linesOf [c] = [⟨[c], []⟩] := linesOf_solid unbroken []

/-- A line is read up to its line feed. -/
theorem linesOf_line_append (unbroken : Unbroken line) (rest : List Char) :
    linesOf (line ++ '\n' :: rest) = fed line :: linesOf rest := by
  induction line with
  | nil => exact linesOf_feed rest
  | cons c line ih =>
    have further : Unbroken line := fun d member => unbroken d (List.mem_cons_of_mem c member)
    exact linesOf_cons (unbroken c List.mem_cons_self) (ih further)

/-- A document is read as the lines that it is made of, whatever follows it. -/
theorem linesOf_document_append (unbroken : ∀ line ∈ lines, Unbroken line) (rest : List Char) :
    linesOf (document lines ++ rest) = lines.map fed ++ linesOf rest := by
  induction lines with
  | nil => rfl
  | cons line lines ih =>
    have split : document (line :: lines) ++ rest = line ++ '\n' :: (document lines ++ rest) := by
      simp [document]
    rw [split, linesOf_line_append (unbroken line List.mem_cons_self),
      ih fun other member => unbroken other (List.mem_cons_of_mem line member)]
    rfl

theorem linesOf_document (unbroken : ∀ line ∈ lines, Unbroken line) :
    linesOf (document lines) = lines.map fed := by
  have read := linesOf_document_append unbroken []
  rwa [List.append_nil, linesOf, List.append_nil] at read

/-- What follows a line in a text: the line ends with this ending, and these lines come next. -/
def EndsLine (tail ending : List Char) (following : List Line) : Prop :=
  ∀ line, line ≠ [] → Unbroken line → linesOf (line ++ tail) = ⟨line, ending⟩ :: following

/-- A line feed ends any line. -/
theorem endsLine_feed (rest : List Char) : EndsLine ('\n' :: rest) ['\n'] (linesOf rest) :=
  fun _ _ unbroken => linesOf_line_append unbroken rest

/-- The last line of a text needs no line feed, if it holds anything. -/
theorem endsLine_nothing : EndsLine [] [] [] := by
  intro line filled unbroken
  rw [List.append_nil]
  induction line with
  | nil => exact absurd rfl filled
  | cons c line ih =>
    have solid := unbroken c List.mem_cons_self
    cases line with
    | nil => exact linesOf_single solid
    | cons d line =>
      have further : Unbroken (d :: line) := fun e member => unbroken e (List.mem_cons_of_mem c member)
      exact linesOf_cons solid (ih (List.cons_ne_nil d line) further)

/-- What a text comes to whatever ends its last line, it comes to with a line feed there and without
one. -/
theorem without_and_with_feed {f : List Char → β}
    (either : ∀ tail ending, EndsLine tail ending [] → f (cs ++ tail) = result) :
    f cs = result ∧ f (cs ++ ['\n']) = result := by
  have unended := either [] [] endsLine_nothing
  rw [List.append_nil] at unended
  exact ⟨unended, either ['\n'] ['\n'] (endsLine_feed [])⟩

/-- Verbatim text ends with the line feed of its line. -/
theorem verbatim_feed (start : List Char) (following : List Line) :
    verbatim start ['\n'] following = (start ++ ['\n'], 0) := by
  unfold verbatim
  rfl

/-- A line feed with no carriage return before it stays as it is. -/
theorem plainEnding_feed (unbroken : Unbroken line) :
    plainEnding (line ++ ['\n']) = line ++ ['\n'] := by
  unfold plainEnding
  split
  · rename_i last before written
    rw [List.reverse_append, List.reverse_singleton, List.singleton_append] at written
    obtain ⟨_, ends⟩ := List.cons_eq_cons.mp written
    have member : '\r' ∈ line.reverse := by
      rw [ends]
      exact List.mem_cons_self
    exact absurd rfl (unbroken '\r' (List.mem_reverse.mp member)).2
  · rfl

/-- Without containers, a line starts with its first character. -/
theorem lineStart_bare (line : Line) : lineStart [] line = (0, Cursor.ofText line.text) := rfl

@[simp] theorem rest_ofText (cs : List Char) : (Cursor.ofText cs).rest = cs := rfl

@[simp] theorem spare_ofText (cs : List Char) : (Cursor.ofText cs).spare = 0 := rfl

/-- A text that begins with neither a space nor a tab is not indented. -/
theorem takeColumns_solid (solid : c ≠ ' ' ∧ c ≠ '\t') (cs : List Char) (wanted : Nat) :
    (Cursor.ofText (c :: cs)).takeColumns wanted = (wanted, Cursor.ofText (c :: cs)) := by
  have stuck : Cursor.takeColumns.go wanted (c :: cs) 0 0 = (wanted, ⟨c :: cs, 0, 0⟩) := by
    rw [Cursor.takeColumns.go.eq_def]
    split
    · rename_i same
      cases same
      exact absurd rfl solid.1
    · rename_i same
      cases same
      exact absurd rfl solid.2
    · rfl
  simp only [Cursor.takeColumns, Cursor.ofText, Nat.zero_min, Nat.sub_zero, stuck]

/-- No columns are taken where none are wanted. -/
theorem takeColumns_zero (cs : List Char) :
    (Cursor.ofText cs).takeColumns 0 = (0, Cursor.ofText cs) := by
  have stuck : Cursor.takeColumns.go 0 cs 0 0 = (0, ⟨cs, 0, 0⟩) := by
    rw [Cursor.takeColumns.go.eq_def]
    split
    · rfl
    · rfl
    · rfl
  simp only [Cursor.takeColumns, Cursor.ofText, Nat.zero_min, Nat.sub_zero, stuck]

private theorem takeColumns_go_suffix (wanted : Nat) (cs : List Char) (column spare : Nat) :
    (Cursor.takeColumns.go wanted cs column spare).2.rest <:+ cs := by
  fun_induction Cursor.takeColumns.go wanted cs column spare with
  | case1 => exact List.suffix_rfl
  | case2 _ _ _ _ _ ih => exact ih.trans (List.suffix_cons ..)
  | case3 => exact List.suffix_rfl
  | case4 _ _ _ _ _ _ _ ih => exact ih.trans (List.suffix_cons ..)
  | case5 => exact List.suffix_rfl

/-- What is left behind an indentation is a part of the text, up to its end. -/
theorem takeColumns_suffix (cs : List Char) (wanted : Nat) :
    ((Cursor.ofText cs).takeColumns wanted).2.rest <:+ cs := takeColumns_go_suffix ..

theorem upTo_solid (solid : c ≠ ' ' ∧ c ≠ '\t') (cs : List Char) (most : Nat) :
    (Cursor.ofText (c :: cs)).upTo most = (0, Cursor.ofText (c :: cs)) := by
  rw [Cursor.upTo, takeColumns_solid solid]
  simp only [Nat.sub_self]

/-- A line that begins no container begins a leaf: it is not indented, and there is no item,
quotation or footnote to open. -/
theorem openBlocks_leaf (solid : c ≠ ' ' ∧ c ≠ '\t') (noFootnote : c ≠ '[') (noQuote : c ≠ '>')
    (noItem : Builder.itemStart? 0 (Cursor.ofText (c :: cs)) = none)
    (shown : allGap (c :: cs) = false) (b : Builder) (line : Line) (following : List Line) :
    b.openBlocks (Cursor.ofText (c :: cs)) line following =
      b.closeList.openLeaf (Cursor.ofText (c :: cs)) line following := by
  have quote : quoteMark? (Cursor.ofText (c :: cs)) = none := by
    rw [quoteMark?, Cursor.char?, Cursor.ofText]
    simp only [if_neg noQuote.symm, Option.map_none]
  rw [Builder.openBlocks]
  simp only [upTo_solid solid, rest_ofText, shown]
  split
  · rename_i impossible
    cases impossible
  · split
    · rename_i same _
      cases same
      exact absurd rfl noFootnote
    · rw [noItem, quote]
      rfl

/-- A line that the open leaf takes changes nothing else. -/
theorem step_of_continues {b : Builder} (unskipped : b.skip = 0)
    (continued : b.continueLeaf? line following = some after) : b.step line following = after := by
  rw [Builder.step, unskipped]
  simp only [continued, Option.getD_some]

/-- A line that no open leaf takes opens something itself. -/
theorem step_of_ends {b : Builder} (unskipped : b.skip = 0)
    (ended : b.continueLeaf? line following = none) :
    b.step line following = b.openLine line following := by
  rw [Builder.step, unskipped]
  simp only [ended, Option.getD_none]

/-- A leaf that is neither HTML nor a thematic break nor a heading is code behind a fence, or text. -/
theorem openLeaf_solid (solid : c ≠ ' ' ∧ c ≠ '\t') (noHtml : c ≠ '<')
    (noBreak : isThematicBreak (c :: cs) = false) (noHeading : headingLevel? (c :: cs) = none)
    (b : Builder) (line : Line) (following : List Line) :
    b.openLeaf (Cursor.ofText (c :: cs)) line following =
      match openingFence? (c :: cs) with
      | some fence =>
        let (info, extra) := verbatim ((c :: cs).drop fence.length) line.ending following
        let trimmed := ((info.dropWhile isGap).reverse.dropWhile isSpace).reverse
        { b with leaf := .fenced fence 0 (unescapeText false trimmed) [], skip := extra }
      | none => b.openText (c :: cs) line.ending following := by
  unfold Builder.openLeaf
  simp only [upTo_solid solid, rest_ofText, noBreak, noHeading, List.cons.injEq, noHtml, false_and,
    imp_self, implies_true]
  cases openingFence? (c :: cs) with
  | some fence => rfl
  | none => rfl

end Handbook.SourceLines
