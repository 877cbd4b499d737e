import Handbook.Proofs.Words
import Mathlib.Data.List.TakeWhile

/-! Fenced code in documents. Between two fences nothing is Markdown: a line of code that holds no fence
itself goes into the block as it stands, whatever it looks like and however it is indented, and three
characters of it are written as references. -/
namespace Handbook.FencedCode
open Markdown SourceLines Writing Words

/-! ## Documents of fenced code -/

/-- The three backticks that fence code. -/
def fence : List Char := [backtick, backtick, backtick]

/-- A line of code: it holds no line end and no fence. -/
structure CodeLine where
  chars : List Char
  unbroken : Unbroken chars
  unfenced : ¬fence <:+: chars

/-- A document of code in a language: a fence with the name of the language, the lines, and a fence
that need not be ended by a line feed. -/
def fenced (language : Word) (code : List CodeLine) : List Char :=
  document ((fence ++ language.chars) :: code.map CodeLine.chars) ++ fence

/-! ## Reading a block of code -/

/-- A builder outside of every container that is in a block of code with this text. -/
def inside (language : Word) (text : List Char) : Builder :=
  { Builder.empty with leaf := .fenced ⟨backtick, 3⟩ 0 language.chars text }

theorem unbroken_fence : Unbroken fence := by simp [Unbroken, fence, backtick]

theorem unbroken_fence_append (language : Word) : Unbroken (fence ++ language.chars) :=
  List.forall_mem_append.mpr ⟨unbroken_fence, language.unbroken⟩

/-- A fence is no marker of an item. -/
theorem itemStart?_fence (cs : List Char) :
    Builder.itemStart? 0 (Cursor.ofText (fence ++ cs)) = none := by
  have noMarker : listMarker? (fence ++ cs) = none := rfl
  rw [Builder.itemStart?, Cursor.ofText, noMarker]
  rfl

theorem openingFence?_language (language : Word) :
    openingFence? (fence ++ language.chars) = some ⟨backtick, 3⟩ := by
  obtain ⟨c, rest, written, plain⟩ := language.exists_eq_cons
  have other : (c == backtick) = false := beq_false_of_ne (ne_of_isAlphanum plain rfl)
  have run : runLength backtick (backtick :: backtick :: language.chars) = 2 := by
    simp [runLength, written, other]
  have bare : backtick ∉ language.chars := fun member =>
    ne_of_isAlphanum (language.plain _ member) (d := backtick) rfl rfl
  simp only [fence, List.cons_append, List.nil_append, openingFence?, run]
  simp [bare]

/-- Nothing is dropped before a character that stays. -/
theorem dropWhile_solid {dropped : Char → Bool} (nonempty : cs ≠ [])
    (solid : ∀ c ∈ cs, dropped c = false) (rest : List Char) :
    (cs ++ rest).dropWhile dropped = cs ++ rest := by
  obtain ⟨c, cs, rfl⟩ := List.exists_cons_of_ne_nil nonempty
  exact List.dropWhile_cons_of_neg (by simp [solid])

/-- What stands behind an opening fence is the name of the language, without the end of the line. -/
theorem trimmed_language (language : Word) :
    (((language.chars ++ ['\n']).dropWhile isGap).reverse.dropWhile isSpace).reverse =
      language.chars := by
  have front := dropWhile_solid language.nonempty
    (fun c member => isGap_of_isAlphanum (language.plain c member)) ['\n']
  have back := dropWhile_solid (List.reverse_ne_nil_iff.mpr language.nonempty)
    (fun c member => isSpace_of_isAlphanum (language.plain c (List.mem_reverse.mp member))) []
  rw [List.append_nil] at back
  rw [front, List.reverse_append, List.reverse_singleton, List.singleton_append,
    List.dropWhile_cons_of_pos rfl, back, List.reverse_reverse]

/-- A fence that names a language opens a block of code. -/
theorem openLeaf_fence (language : Word) (following : List Line) :
    Builder.empty.openLeaf (Cursor.ofText (fence ++ language.chars)) (fed (fence ++ language.chars))
      following = inside language [] := by
  have noBreak : isThematicBreak (backtick :: backtick :: backtick :: language.chars) = false := rfl
  have leaf := openLeaf_solid (by decide) (by decide) noBreak rfl Builder.empty
    (fed (fence ++ language.chars)) following
  have opening := openingFence?_language language
  simp only [fence, List.cons_append, List.nil_append] at opening leaf ⊢
  rw [leaf, opening]
  simp only [fed, List.drop_succ_cons, List.drop_zero, verbatim_feed, trimmed_language,
    Word.unescapeText_chars]
  rfl

theorem step_opens (language : Word) (following : List Line) :
    Builder.empty.step (fed (fence ++ language.chars)) following = inside language [] := by
  have leaf : Builder.empty.openBlocks (Cursor.ofText (fence ++ language.chars))
      (fed (fence ++ language.chars)) following =
      Builder.empty.openLeaf (Cursor.ofText (fence ++ language.chars))
        (fed (fence ++ language.chars)) following :=
    openBlocks_leaf (c := backtick) (by decide) (by decide) (by decide) (itemStart?_fence _) rfl _ _ _
  exact leaf.trans (openLeaf_fence language following)

/-! ## Lines of code -/

/-- A line without a fence does not close a block of code, wherever the reading of it starts. -/
theorem closedBy_eq_false (unfenced : ¬fence <:+: line) (part : rest <:+ line) :
    (Fence.mk backtick 3).closedBy rest = false := by
  have short : ¬3 ≤ runLength backtick rest := by
    intro long
    have run : rest.takeWhile (· == backtick) = List.replicate (runLength backtick rest) backtick :=
      List.eq_replicate_iff.mpr ⟨rfl, fun c member => by simpa using List.mem_takeWhile_imp member⟩
    have starts : (rest.takeWhile (· == backtick)).take 3 = fence := by
      rw [run, List.take_replicate, Nat.min_eq_left long]
      rfl
    have inside : fence <+: rest := by
      rw [← starts]
      exact (List.take_prefix ..).trans (List.takeWhile_prefix _)
    exact unfenced (inside.isInfix.trans part.isInfix)
  simp [Fence.closedBy, short]

/-- Every line of code goes into the block as it is. -/
theorem step_inside (language : Word) (line : CodeLine) (text : List Char) (following : List Line) :
    (inside language text).step (fed line.chars) following =
      inside language (text ++ (line.chars ++ ['\n'])) := by
  have stays := closedBy_eq_false line.unfenced (takeColumns_suffix line.chars 4)
  refine step_of_continues rfl ?_
  simp only [Builder.continueLeaf?, inside, Builder.empty, lineStart_bare, fed, takeColumns_zero,
    Nat.sub_zero, stays, rest_ofText, spare_ofText, verbatim_feed, plainEnding_feed line.unbroken]
  simp [Builder.padded]

/-- The lines of code go into the block one after another, and their order is kept. -/
theorem run_inside (language : Word) (code : List CodeLine) (text : List Char)
    (following : List Line) :
    (inside language text).run (code.map (fed ·.chars) ++ following) =
      (inside language (text ++ document (code.map CodeLine.chars))).run following := by
  -- The text of the block grows with every line, so it is arbitrary in the induction.
  induction code generalizing text with
  | nil =>
    rw [List.map_nil, List.map_nil, document, List.flatMap_nil, List.append_nil]
    rfl
  | cons line code ih =>
    rw [List.map_cons, List.cons_append, Builder.run, step_inside, ih, List.append_assoc]
    rfl

/-- The fence behind the code closes the block. -/
theorem step_closes (language : Word) (text ending : List Char) (following : List Line) :
    (inside language text).step ⟨fence, ending⟩ following =
      { Builder.empty with blocks := [.code (some language.chars) text] } :=
  step_of_continues rfl rfl

/-- A document of fenced code is one block of code, which holds all of its lines. -/
theorem ofText_fenced (language : Word) (code : List CodeLine) (last : EndsLine tail ending []) :
    Document.ofText (fenced language code ++ tail) =
      ⟨[.code (some language.chars) (document (code.map CodeLine.chars))], [], []⟩ := by
  have unbroken : ∀ line ∈ (fence ++ language.chars) :: code.map CodeLine.chars, Unbroken line := by
    intro line member
    rcases List.mem_cons.mp member with rfl | member
    · exact unbroken_fence_append language
    · obtain ⟨codeLine, _, rfl⟩ := List.mem_map.mp member
      exact codeLine.unbroken
  have lines : linesOf (fenced language code ++ tail) =
      fed (fence ++ language.chars) :: (code.map (fed ·.chars) ++ [⟨fence, ending⟩]) := by
    rw [fenced, List.append_assoc, linesOf_document_append unbroken,
      last fence (List.cons_ne_nil _ _) unbroken_fence, List.map_cons, List.map_map]
    rfl
  rw [Document.ofText, lines, Builder.run, step_opens, run_inside, Builder.run, step_closes]
  rfl

/-! ## Writing it -/

/-- A character of code as it is written: three characters have a reference, all others stand for
themselves. -/
def shown (c : Char) : List Char :=
  if c = '&' then "&amp;".toList
  else if c = '<' then "&lt;".toList
  else if c = '>' then "&gt;".toList
  else [c]

theorem bodyChar_eq_shown (c : Char) : bodyChar c = shown c := by
  by_cases quote : c = '"'
  · rw [quote]
    rfl
  · rw [bodyChar, if_neg (by simpa using quote)]
    unfold Text.escapeChar
    split
    · rfl
    · rfl
    · rfl
    · exact absurd rfl quote
    · rename_i ampersand less greater _
      rw [shown, if_neg ampersand, if_neg less, if_neg greater]

/-- Code as HTML: its language, and its lines with nothing but those references in them. -/
def codeHtml (language : Word) (code : List CodeLine) : List Char :=
  "<pre><code class=\"language-".toList ++ language.chars ++ "\">".toList ++
    code.flatMap (fun line => line.chars.flatMap shown ++ ['\n']) ++ "</code></pre>\n".toList

theorem bodyText_document (code : List CodeLine) :
    bodyText (document (code.map CodeLine.chars)) =
      code.flatMap fun line => line.chars.flatMap shown ++ ['\n'] := by
  have body (cs : List Char) : bodyText cs = cs.flatMap shown := by
    rw [bodyText, funext bodyChar_eq_shown]
  have feed : ['\n'].flatMap shown = ['\n'] := rfl
  simp only [body, document, List.flatMap_map, List.flatMap_assoc, List.flatMap_append, feed]

/-- The element of a block of code names its language. -/
theorem writeBlock_code (doc : Document) (tight : Bool) (language : Word) (text : List Char)
    (w : Writer) :
    writeBlock doc tight (.code (some language.chars) text) w =
      w.freshLine.put ("<pre><code class=\"language-".toList ++ language.chars ++ "\">".toList ++
        bodyText text ++ "</code></pre>\n".toList) := by
  have name : language.chars.takeWhile (· != ' ') = language.chars :=
    List.takeWhile_eq_self_iff.mpr fun c member => by
      simpa using ne_of_isAlphanum (language.plain c member) rfl
  have named : (language.chars.takeWhile (· != ' ')).isEmpty = false := by
    simpa [name] using language.nonempty
  have unfolded : writeBlock doc tight (.code (some language.chars) text) w =
      ((if (language.chars.takeWhile (· != ' ')).isEmpty = true then w.freshLine.tag "<pre><code>"
        else ((w.freshLine.tag "<pre><code class=\"language-").put
          (attributeText (language.chars.takeWhile (· != ' ')))).tag "\">").put
        (bodyText text)).tag "</code></pre>\n" := by
    rw [writeBlock]
    rfl
  rw [unfolded, named, name]
  simp only [Bool.false_eq_true, if_false, Word.attributeText_chars, tag_eq_put, put_put]

theorem renderChars_fenced (language : Word) (code : List CodeLine)
    (last : EndsLine tail ending []) :
    renderChars (fenced language code ++ tail) = codeHtml language code := by
  have fresh : Writer.empty.freshLine = .empty := freshLine_of_atLineStart rfl
  rw [renderChars, ofText_fenced language code last, writeBlocks, writeBlock_code, writeBlocks,
    fresh, bodyText_document, put_empty_html]
  rfl

/-- Fenced code is kept, whether or not a line feed ends the fence behind it: every line stands in the
element as it is, its indentation, quotation marks, dashes and dots included, and nothing in it is
Markdown or ends the block. -/
theorem fenced_code_is_kept (language : Word) (code : List CodeLine) :
    renderChars (fenced language code) = codeHtml language code ∧
      renderChars (fenced language code ++ ['\n']) = codeHtml language code :=
  without_and_with_feed fun _ _ last => renderChars_fenced language code last

/-- Between fences an indented task with a link, an empty line and raw HTML stay lines of code. -/
theorem markup_between_fences_is_left_alone :
    let task := "    - [x] \"it's\" -- *a* [b](c)...".toList
    renderChars (fence ++ "sh\n".toList ++ task ++ "\n\n\t1. <b>&amp;</b>\n".toList ++ fence) =
      "<pre><code class=\"language-sh\">".toList ++ task ++
        "\n\n\t1. &lt;b&gt;&amp;amp;&lt;/b&gt;\n</code></pre>\n".toList := by
  intro task
  let language : Word := .spelled "sh" (by decide) (by decide)
  let code : List CodeLine :=
    [⟨task, by simp [task, Unbroken], by decide +kernel⟩,
      ⟨[], by simp [Unbroken], by decide⟩,
      ⟨"\t1. <b>&amp;</b>".toList, by simp [Unbroken], by decide +kernel⟩]
  have source : fence ++ "sh\n".toList ++ task ++ "\n\n\t1. <b>&amp;</b>\n".toList ++ fence =
      fenced language code := rfl
  have html : codeHtml language code = "<pre><code class=\"language-sh\">".toList ++ task ++
      "\n\n\t1. &lt;b&gt;&amp;amp;&lt;/b&gt;\n</code></pre>\n".toList := rfl
  rw [source, (fenced_code_is_kept language code).1, html]

end Handbook.FencedCode
