import Handbook.Proofs.Presentations
import Handbook.Proofs.SourceLines
import Handbook.Proofs.Writing

/-! Raw HTML in documents. Once a line has opened a division, the lines behind it are content that
nothing looks into: whatever they hold, they are written as they stand until a blank line ends
them. -/
namespace Handbook.RawHtml
open Markdown SourceLines Presentations Writing

/-! ## The line that opens a division -/

/-- Whether a line begins with the start tag of a division, up to the end of its name. -/
def OpensDivision (line : List Char) : Prop :=
  "<div>".toList <+: line ∨ "<div ".toList <+: line

/-- What such a line is: the name of the tag, a character that ends it, and anything behind it. -/
theorem OpensDivision.exists_eq (opens : OpensDivision line) :
    ∃ c rest, (c = '>' ∨ c = ' ') ∧ line = '<' :: ("div".toList ++ c :: rest) := by
  rcases opens with ⟨rest, rfl⟩ | ⟨rest, rfl⟩
  · exact ⟨'>', rest, .inl rfl, rfl⟩
  · exact ⟨' ', rest, .inr rfl, rfl⟩

/-- A division is ended by blank lines only. -/
theorem htmlEnd?_division (rest : List Char) : htmlEnd? ("div".toList ++ rest) = none := by
  have verbatim : verbatimTags.find? (fun tag =>
      lowered (("div".toList ++ rest).take tag.length) == tag.toList &&
        (("div".toList ++ rest).drop tag.length).head?.all (fun c => isGap c || c == '>')) =
      none := by
    have others : ∀ tag ∈ verbatimTags, tag.toList.head? ≠ some 'd' ∧ 0 < tag.length := by decide
    rw [List.find?_eq_none]
    intro tag member both
    obtain ⟨other, long⟩ := others tag member
    have same := beq_iff_eq.mp ((Bool.and_eq_true _ _).mp both).1
    rw [← same] at other
    cases length : tag.length with
    | zero => exact absurd length (Nat.ne_of_gt long)
    | succ n =>
      rw [length] at other
      exact other rfl
  unfold htmlEnd?
  rw [verbatim]
  rfl

theorem startsBlockTag_division (ends : c = '>' ∨ c = ' ') (rest : List Char) :
    startsBlockTag ("div".toList ++ c :: rest) = true := by
  have named : blockTags.contains (String.ofList (lowered "div".toList)) = true := by decide
  rcases ends with rfl | rfl
  · exact (Bool.and_eq_true _ _).mpr ⟨named, rfl⟩
  · exact (Bool.and_eq_true _ _).mpr ⟨named, rfl⟩

/-! ## Reading a block of raw HTML -/

/-- A builder outside of every container that is in a block of raw HTML with this text. -/
def inside (text : List Char) : Builder := { Builder.empty with leaf := .html none text }

/-- A tag is no marker of an item. -/
theorem itemStart?_tag (cs : List Char) :
    Builder.itemStart? 0 (Cursor.ofText ('<' :: cs)) = none := by
  have noMarker : listMarker? ('<' :: cs) = none := rfl
  rw [Builder.itemStart?, Cursor.ofText, noMarker]
  rfl

/-- The line that opens a division begins a block of raw HTML. -/
theorem openLeaf_division (opens : OpensDivision line) (unbroken : Unbroken line)
    (following : List Line) :
    Builder.empty.openLeaf (Cursor.ofText line) (fed line) following = inside (line ++ ['\n']) := by
  obtain ⟨c, rest, ends, rfl⟩ := opens.exists_eq
  have start := upTo_solid (c := '<') (by decide) ("div".toList ++ c :: rest) 4
  unfold Builder.openLeaf
  simp only [start, rest_ofText, spare_ofText, fed, verbatim_feed, plainEnding_feed unbroken,
    htmlEnd?_division, startsBlockTag_division ends]
  rfl

theorem step_opens (opens : OpensDivision line) (unbroken : Unbroken line)
    (following : List Line) :
    Builder.empty.step (fed line) following = inside (line ++ ['\n']) := by
  obtain ⟨c, rest, _, written⟩ := opens.exists_eq
  have leaf : Builder.empty.openBlocks (Cursor.ofText line) (fed line) following =
      Builder.empty.openLeaf (Cursor.ofText line) (fed line) following := by
    rw [written]
    exact openBlocks_leaf (by decide) (by decide) (by decide) (itemStart?_tag _) rfl _ _ _
  exact leaf.trans (openLeaf_division opens unbroken following)

/-- A line of raw HTML holds no line end of its own, and something that is no gap. -/
structure Filled (line : List Char) : Prop where
  unbroken : Unbroken line
  shown : ∃ c ∈ line, isGap c = false

theorem filled_iff : Filled line ↔
    line.all (fun c => c != '\n' && c != '\r') = true ∧ line.any (fun c => !isGap c) = true := by
  have unfolded : Filled line ↔ Unbroken line ∧ ∃ c ∈ line, isGap c = false :=
    ⟨fun filled => ⟨filled.unbroken, filled.shown⟩, fun ⟨unbroken, shown⟩ => ⟨unbroken, shown⟩⟩
  rw [unfolded]
  simp [Unbroken]

instance (line : List Char) : Decidable (Filled line) := decidable_of_iff' _ filled_iff

theorem Filled.not_allGap (filled : Filled line) : allGap line = false := by
  obtain ⟨c, member, solid⟩ := filled.shown
  rw [allGap, List.all_eq_false]
  exact ⟨c, member, by simp [solid]⟩

/-- Every such line goes into the block as it is. -/
theorem step_inside (filled : Filled line) (text : List Char) (following : List Line) :
    (inside text).step (fed line) following = inside (text ++ (line ++ ['\n'])) := by
  have continued : (inside text).continueLeaf? (fed line) following =
      some (inside (text ++ (line ++ ['\n']))) := by
    simp only [Builder.continueLeaf?, inside, Builder.empty, lineStart_bare, Cursor.ofText, fed,
      filled.not_allGap, verbatim_feed, plainEnding_feed filled.unbroken]
    rfl
  exact congrArg (Option.getD · _) continued

/-- Such lines go into the block one after another. -/
theorem run_inside (filled : ∀ line ∈ lines, Filled line) (text : List Char) :
    (inside text).run (lines.map fed) = inside (text ++ document lines) := by
  -- The text of the block grows with every line, so it is arbitrary in the induction.
  induction lines generalizing text with
  | nil =>
    rw [document, List.flatMap_nil, List.append_nil]
    rfl
  | cons line lines ih =>
    have step := step_inside (filled line List.mem_cons_self) text (lines.map fed)
    have further := ih fun other member => filled other (List.mem_cons_of_mem line member)
    rw [List.map_cons, Builder.run, step, further, List.append_assoc]
    rfl

/-- The block ends with the document. -/
theorem finish_inside (text : List Char) : (inside text).finish = ⟨[.html text], [], []⟩ := rfl

/-! ## Writing it -/

/-- A document that opens a division and has no blank lines is one block of raw HTML. -/
theorem ofText_division (opens : OpensDivision first)
    (filled : ∀ line ∈ first :: rest, Filled line) :
    Document.ofText (document (first :: rest)) =
      ⟨[.html (document (first :: rest))], [], []⟩ := by
  have unbroken : ∀ line ∈ first :: rest, Unbroken line :=
    fun line member => (filled line member).unbroken
  have begun := step_opens opens (unbroken first List.mem_cons_self) (rest.map fed)
  have further := run_inside (fun line member => filled line (List.mem_cons_of_mem first member))
    (first ++ ['\n'])
  rw [Document.ofText, linesOf_document unbroken, List.map_cons, Builder.run, begun, further,
    finish_inside]
  rfl

theorem renderChars_division (opens : OpensDivision first)
    (filled : ∀ line ∈ first :: rest, Filled line) :
    renderChars (document (first :: rest)) = document (first :: rest) := by
  simp only [renderChars, ofText_division opens filled, writeBlocks, writeBlock, put_empty_html]

/-- Raw HTML is written as it stands. Where the first line of a document opens a division and no
line is blank, the document comes out unchanged: nothing in it is escaped, and nothing is taken for
Markdown, whatever it looks like. A page of this document holds it unchanged in its section. -/
theorem division_is_written_as_it_stands (opens : OpensDivision first)
    (filled : ∀ line ∈ first :: rest, Filled line) :
    renderChars (document (first :: rest)) = document (first :: rest) ∧
    ∀ (layout : Layout) (page : Page) (fragments : Fragments) (source : Source),
      source.answer page.source = .ok (String.ofList (document (first :: rest))) →
      rendered layout page fragments source =
        .ok (opening page ++ (ribbonIf layout.ribbon page.ribbon ++
            aboveContent layout page fragments) ++
          ("<section>".toList ++ (document (first :: rest) ++ "</section>".toList) ++
            belowContent fragments)) := by
  have unchanged := renderChars_division opens filled
  refine ⟨unchanged, ?_⟩
  intro layout page fragments source answered
  rw [rendered_eq_around_section, answered, Except.map, String.toList_ofList, unchanged]
  rfl

/-- A table, a task, a quotation, a footnote and a fence are left as they are inside a division. -/
theorem markup_in_division_is_left_alone :
    let text := "<div class=\"a\">\n| - [x] \"it's\" | ~~b~~ -- |\n|---|---|\n\t> # c\n[^d]: e...\n"
    renderChars (text ++ "\x60\x60\x60\n").toList = (text ++ "\x60\x60\x60\n").toList := by
  intro text
  let first := "<div class=\"a\">".toList
  let rest := ["| - [x] \"it's\" | ~~b~~ -- |", "|---|---|", "\t> # c", "[^d]: e...",
    "\x60\x60\x60"].map String.toList
  have written : (text ++ "\x60\x60\x60\n").toList = document (first :: rest) := by decide
  have filled : ∀ line ∈ first :: rest, Filled line := by decide
  rw [written]
  exact (division_is_written_as_it_stands (.inr (by decide)) filled).1

end Handbook.RawHtml
