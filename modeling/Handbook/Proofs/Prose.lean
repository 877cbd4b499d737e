import Handbook.Proofs.PlainContent

/-! Documents of plain prose: paragraphs of lines of words. Everything else that a line may begin or
become announces itself by a character which no line of words holds, so a line of words opens a paragraph
or goes on with one, and an empty line is all that ends it. -/
namespace Handbook.Prose
open Markdown SourceLines Writing Words PlainContent

/-! ## Documents of prose -/

/-- The text of a document of paragraphs, with one empty line between any two of them. -/
def proseText (prose : Row (Row (Row Word))) : List Char :=
  prose.joined ['\n', '\n'] paragraphText

/-- A paragraph as HTML. -/
def paragraphHtml (paragraph : Row (Row Word)) : List Char :=
  "<p>".toList ++ paragraphText paragraph ++ "</p>\n".toList

/-- Prose as HTML: one element for each paragraph, in their order. -/
def proseHtml (prose : Row (Row (Row Word))) : List Char :=
  (prose.first :: prose.more).flatMap paragraphHtml

/-- A paragraph in the tree of a document. -/
def paragraphBlock (paragraph : Row (Row Word)) : Block :=
  .paragraph none (paragraphContent paragraph)

@[simp] theorem proseText_single (paragraph : Row (Row Word)) :
    proseText ⟨paragraph, []⟩ = paragraphText paragraph := Row.joined_single ..

@[simp] theorem proseText_cons (paragraph next : Row (Row Word)) (more : List (Row (Row Word))) :
    proseText ⟨paragraph, next :: more⟩ =
      paragraphText paragraph ++ '\n' :: '\n' :: proseText ⟨next, more⟩ := Row.joined_cons ..

/-! ## Lines of words begin nothing else -/

/-- A line of words holds nothing but letters, digits and spaces. -/
theorem ne_of_mem_lineText (member : c ∈ lineText line) (other : d.isAlphanum = false)
    (noSpace : d ≠ ' ') : c ≠ d := by
  obtain ⟨word, more⟩ := line
  induction more generalizing word with
  | nil =>
    rw [lineText_single] at member
    exact ne_of_isAlphanum (word.plain c member) other
  | cons next more ih =>
    rw [lineText_cons, List.mem_append, List.mem_cons] at member
    rcases member with inWord | rfl | behind
    · exact ne_of_isAlphanum (word.plain c inWord) other
    · exact noSpace.symm
    · exact ih next behind

theorem lineText_ne_nil (line : Row Word) : lineText line ≠ [] := by
  obtain ⟨c, rest, written, _⟩ := lineText_eq_cons line
  rw [written]
  exact List.cons_ne_nil c rest

theorem unbroken_lineText (line : Row Word) : Unbroken (lineText line) := fun _ member =>
  ⟨ne_of_mem_lineText member rfl (by decide), ne_of_mem_lineText member rfl (by decide)⟩

section
variable {c : Char} (plain : c.isAlphanum = true) (cs : List Char)
include plain

theorem isThematicBreak_word : isThematicBreak (c :: cs) = false := by
  simp [isThematicBreak, ne_of_isAlphanum plain]

theorem headingLevel?_word : headingLevel? (c :: cs) = none := by
  simp [headingLevel?, runLength, ne_of_isAlphanum plain]

theorem openingFence?_word : openingFence? (c :: cs) = none := by
  simp [openingFence?, ne_of_isAlphanum plain, ne_of_isAlphanum plain (d := backtick) rfl]

theorem underlineLevel?_word : underlineLevel? (c :: cs) = none := by
  simp [underlineLevel?, ne_of_isAlphanum plain]

theorem definition?_word (atoms : List Atom) : definition? (.char c :: atoms) = none := by
  have unbracketed : ((Atom.char c :: atoms).head? == some (.char '[')) = false := by
    simp [ne_of_isAlphanum plain]
  rw [definition?, unbracketed]
  rfl

theorem startsFootnote_word (inTable : Bool) : startsFootnote inTable (c :: cs) = false := by
  simp [startsFootnote, ne_of_isAlphanum plain]

end

/-- A number at the start of a line of words is no marker of an item: no line of words holds the
character that would have to follow it. -/
theorem listMarker?_lineText (line : Row Word) : listMarker? (lineText line) = none := by
  have other : ∀ d ∈ lineText line, d ≠ '.' ∧ d ≠ ')' := fun d member =>
    ⟨ne_of_mem_lineText member rfl (by decide), ne_of_mem_lineText member rfl (by decide)⟩
  obtain ⟨c, rest, written, plain⟩ := lineText_eq_cons line
  rw [written] at other ⊢
  simp only [listMarker?]
  rw [if_neg (by simp [ne_of_isAlphanum plain])]
  split
  · rename_i d _ _ behind
    have member : d ∈ c :: rest := List.mem_of_mem_drop (by rw [behind]; exact List.mem_cons_self)
    rw [if_neg (by simpa using other d member)]
  · rfl

theorem bars_go_unbarred (unbarred : '|' ∉ cs) (escaped : Bool) (found : Nat × List Char) :
    bars.go escaped found cs = found := by
  induction cs generalizing escaped with
  | nil => rfl
  | cons c cs ih =>
    rw [List.mem_cons, not_or] at unbarred
    have noBar : (c == '|') = false := beq_false_of_ne (Ne.symm unbarred.1)
    simpa [bars.go, noBar] using ih unbarred.2 _

/-- A line of words is no header of a table, for want of a bar. -/
theorem tableAhead?_lineText (frames : List Frame) (line : Row Word) (following : List Line) :
    tableAhead? frames (lineText line) following = none := by
  have unbarred : '|' ∉ lineText line := fun member =>
    ne_of_mem_lineText member rfl (by decide) rfl
  have noTable (delimiters : List Char) : tableColumns? (lineText line) delimiters = none := by
    rw [tableColumns?, bars, bars_go_unbarred unbarred, if_pos rfl]
  simp [tableAhead?, noTable]

theorem interruptsParagraph_lineText (frames : List Frame) (line : Row Word)
    (following : List Line) :
    interruptsParagraph frames true (lineText line) following = false := by
  have noItem := listMarker?_lineText line
  obtain ⟨c, rest, written, plain⟩ := lineText_eq_cons line
  rw [written] at noItem ⊢
  simp [interruptsParagraph, interrupts, interruptingItem, noItem, isThematicBreak_word plain,
    headingLevel?_word plain, openingFence?_word plain, startsFootnote_word plain,
    ne_of_isAlphanum plain]

/-! ## Reading prose -/

/-- A builder outside of every container, between paragraphs. -/
def between (blocks : List Block) (blank : Bool) : Builder := { Builder.empty with blocks, blank }

/-- A builder in a paragraph with this content. -/
def inParagraph (blocks : List Block) (content : List Atom) (ending : List Char) : Builder :=
  { Builder.empty with blocks, leaf := .paragraph none content ending }

/-- Outside of every container, a line of words opens a paragraph. -/
theorem openBlocks_lineText (blocks : List Block) (blank : Bool) (line : Row Word)
    (ending : List Char) (following : List Line) :
    (between blocks blank).openBlocks (Cursor.ofText (lineText line)) ⟨lineText line, ending⟩
      following = inParagraph blocks (ofText (lineText line)) ending := by
  have noTable := tableAhead?_lineText [] line following
  have noMarker := listMarker?_lineText line
  obtain ⟨c, rest, written, plain⟩ := lineText_eq_cons line
  rw [written] at noTable noMarker ⊢
  have solid : c ≠ ' ' ∧ c ≠ '\t' := ⟨ne_of_isAlphanum plain rfl, ne_of_isAlphanum plain rfl⟩
  have noItem : Builder.itemStart? 0 (Cursor.ofText (c :: rest)) = none := by
    rw [Builder.itemStart?, rest_ofText, isThematicBreak_word plain, noMarker]
    rfl
  have shown : allGap (c :: rest) = false := by
    simp [allGap, isGap_of_isAlphanum plain]
  have closed : (between blocks blank).closeList = between blocks false := by
    cases blank with
    | false => rfl
    | true => rfl
  have noDefinition (continued : List Atom) :
      definition? (ofText (c :: rest) ++ continued) = none := definition?_word plain _
  rw [openBlocks_leaf solid (ne_of_isAlphanum plain rfl) (ne_of_isAlphanum plain rfl) noItem shown,
    closed, openLeaf_solid solid (ne_of_isAlphanum plain rfl) (isThematicBreak_word plain rest)
      (headingLevel?_word plain rest), openingFence?_word plain]
  simp only [Builder.openText, noDefinition, Builder.openParagraph, between, Builder.empty, noTable,
    ite_self]
  rfl

/-- Between paragraphs, a line of words opens one. -/
theorem step_opens (blocks : List Block) (blank : Bool) (line : Row Word) (ending : List Char)
    (following : List Line) :
    (between blocks blank).step ⟨lineText line, ending⟩ following =
      inParagraph blocks (ofText (lineText line)) ending := by
  rw [step_of_ends rfl rfl]
  exact openBlocks_lineText blocks blank line ending following

/-- In a paragraph, a line of words goes on with it. -/
theorem step_goes_on (blocks : List Block) (content : List Atom) (line : Row Word)
    (ending : List Char) (following : List Line) :
    (inParagraph blocks content ['\n']).step ⟨lineText line, ending⟩ following =
      inParagraph blocks (content ++ turn :: ofText (lineText line)) ending := by
  have uninterrupted := interruptsParagraph_lineText [] line following
  obtain ⟨c, rest, written, plain⟩ := lineText_eq_cons line
  rw [written] at uninterrupted ⊢
  have solid : c ≠ ' ' ∧ c ≠ '\t' := ⟨ne_of_isAlphanum plain rfl, ne_of_isAlphanum plain rfl⟩
  have unskipped : (Cursor.ofText (c :: rest)).skipAll.rest = c :: rest := by
    simp [Cursor.skipAll, Cursor.ofText, solid]
  refine step_of_continues rfl ?_
  simp only [Builder.continueLeaf?, inParagraph, Builder.empty, lineStart_bare,
    takeColumns_solid solid, unskipped, rest_ofText, underlineLevel?_word plain,
    continuation.turnTo, Nat.sub_self, List.take_zero, ite_self, List.isEmpty_cons, Bool.false_or]
  rw [List.length_nil, beq_self_eq_true, uninterrupted]
  rfl

/-- An empty line ends a paragraph. -/
theorem step_blank (blocks : List Block) (content : List Atom) (following : List Line) :
    (inParagraph blocks content ['\n']).step (fed []) following =
      between (.paragraph none content :: blocks) true := by
  have opening : (inParagraph blocks content ['\n']).openLine (fed []) following =
      (between (.paragraph none content :: blocks) false).openBlocks (Cursor.ofText []) (fed [])
        following := rfl
  rw [step_of_ends rfl rfl, opening, Builder.openBlocks]
  rfl

/-- The lines behind the first go into the paragraph one after another. -/
theorem run_goes_on (blocks : List Block) (content : List Atom) (line : Row Word)
    (more : List (Row Word)) (ends : EndsLine tail ending following) :
    (inParagraph blocks content ['\n']).run (linesOf (paragraphText ⟨line, more⟩ ++ tail)) =
      (inParagraph blocks (content ++ turn :: paragraphContent ⟨line, more⟩) ending).run
        following := by
  -- The content grows with every line, so it is arbitrary in the induction.
  induction more generalizing content line with
  | nil =>
    rw [paragraphText_single, ends _ (lineText_ne_nil line) (unbroken_lineText line), Builder.run,
      step_goes_on, paragraphContent_single]
  | cons next more ih =>
    rw [paragraphText_cons, List.append_assoc, List.cons_append,
      linesOf_line_append (unbroken_lineText line), Builder.run, fed, step_goes_on, ih,
      paragraphContent_cons, List.append_assoc, List.cons_append]

/-- Between paragraphs, the lines of a paragraph are read as its content. -/
theorem run_paragraph (blocks : List Block) (blank : Bool) (paragraph : Row (Row Word))
    (ends : EndsLine tail ending following) :
    ((between blocks blank).run (linesOf (paragraphText paragraph ++ tail))) =
      (inParagraph blocks (paragraphContent paragraph) ending).run following := by
  obtain ⟨line, more⟩ := paragraph
  cases more with
  | nil =>
    rw [paragraphText_single, ends _ (lineText_ne_nil line) (unbroken_lineText line), Builder.run,
      step_opens, paragraphContent_single]
  | cons next more =>
    rw [paragraphText_cons, List.append_assoc, List.cons_append,
      linesOf_line_append (unbroken_lineText line), Builder.run, fed, step_opens,
      run_goes_on _ _ _ _ ends, paragraphContent_cons]

/-- Prose is read as its paragraphs, behind the blocks that are there already. -/
theorem finish_run_prose (blocks : List Block) (blank : Bool) (paragraph : Row (Row Word))
    (more : List (Row (Row Word))) (last : EndsLine tail ending []) :
    ((between blocks blank).run (linesOf (proseText ⟨paragraph, more⟩ ++ tail))).finish =
      ⟨blocks.reverse ++ (paragraph :: more).map paragraphBlock, [], []⟩ := by
  -- Every empty line finishes a block, so the blocks that are there already are arbitrary.
  induction more generalizing blocks blank paragraph with
  | nil =>
    rw [proseText_single, run_paragraph _ _ _ last, Builder.run]
    have closed : (inParagraph blocks (paragraphContent paragraph) ending).finish =
        ⟨(paragraphBlock paragraph :: blocks).reverse, [], []⟩ := rfl
    rw [closed, List.reverse_cons]
    rfl
  | cons next more ih =>
    rw [proseText_cons, List.append_assoc, List.cons_append, List.cons_append,
      run_paragraph _ _ _ (endsLine_feed _), linesOf_feed, Builder.run, step_blank, ih]
    simp [paragraphBlock]

theorem ofText_prose (prose : Row (Row (Row Word))) (last : EndsLine tail ending []) :
    Document.ofText (proseText prose ++ tail) =
      ⟨(prose.first :: prose.more).map paragraphBlock, [], []⟩ :=
  finish_run_prose [] false prose.first prose.more last

/-! ## Writing it -/

theorem writeBlock_paragraph (doc : Document) (paragraph : Row (Row Word)) (w : Writer) :
    writeBlock doc false (paragraphBlock paragraph) w =
      w.freshLine.put (paragraphHtml paragraph) := by
  simp only [paragraphBlock, writeBlock, Bool.false_eq_true, if_false, writeContent,
    writeInlines_paragraph, tag_eq_put, put_put, paragraphHtml]

/-- Paragraphs are written one after the other, each on lines of its own. -/
theorem writeBlocks_paragraphs (doc : Document) (paragraphs : List (Row (Row Word))) (w : Writer)
    (start : w.atLineStart = true) :
    writeBlocks doc false (paragraphs.map paragraphBlock) w =
      w.put (paragraphs.flatMap paragraphHtml) := by
  induction paragraphs generalizing w with
  | nil =>
    rw [List.map_nil, writeBlocks, List.flatMap_nil, put_nil]
  | cons paragraph paragraphs ih =>
    have feed : "</p>\n".toList = "</p>".toList ++ ['\n'] := rfl
    have fed : (w.put (paragraphHtml paragraph)).atLineStart = true := by
      rw [paragraphHtml, feed, ← List.append_assoc]
      exact atLineStart_put_feed _ w
    rw [List.map_cons, writeBlocks, writeBlock_paragraph, freshLine_of_atLineStart start,
      ih _ fed, put_put, List.flatMap_cons]

theorem renderChars_prose (prose : Row (Row (Row Word))) (last : EndsLine tail ending []) :
    renderChars (proseText prose ++ tail) = proseHtml prose := by
  rw [renderChars, ofText_prose prose last, writeBlocks_paragraphs _ _ _ rfl, put_empty_html]
  rfl

/-- Plain prose survives, whether or not a line feed ends it: every paragraph is written as one element
that holds its lines as they are, in their order, and nothing else is written. -/
theorem prose_is_kept (prose : Row (Row (Row Word))) :
    renderChars (proseText prose) = proseHtml prose ∧
      renderChars (proseText prose ++ ['\n']) = proseHtml prose :=
  without_and_with_feed fun _ _ last => renderChars_prose prose last

/-- A number in front of a line begins no list, and paragraphs are kept apart. -/
theorem numbered_lines_stay_prose :
    renderChars "Buy\n2 pears and\n1 fig\n\n1999\n\nThe end\n".toList =
      "<p>Buy\n2 pears and\n1 fig</p>\n<p>1999</p>\n<p>The end</p>\n".toList := by
  let two : Word := .spelled "2" (by decide) (by decide)
  let pears : Word := .spelled "pears" (by decide) (by decide)
  let joining : Word := .spelled "and" (by decide) (by decide)
  let one : Word := .spelled "1" (by decide) (by decide)
  let fig : Word := .spelled "fig" (by decide) (by decide)
  let list : Row (Row Word) :=
    ⟨⟨.spelled "Buy" (by decide) (by decide), []⟩, [⟨two, [pears, joining]⟩, ⟨one, [fig]⟩]⟩
  let year : Row (Row Word) := ⟨⟨.spelled "1999" (by decide) (by decide), []⟩, []⟩
  let close : Row (Row Word) :=
    ⟨⟨.spelled "The" (by decide) (by decide), [.spelled "end" (by decide) (by decide)]⟩, []⟩
  have source : "Buy\n2 pears and\n1 fig\n\n1999\n\nThe end\n".toList =
      proseText ⟨list, [year, close]⟩ ++ ['\n'] := rfl
  rw [source, (prose_is_kept ⟨list, [year, close]⟩).2]
  rfl

end Handbook.Prose
