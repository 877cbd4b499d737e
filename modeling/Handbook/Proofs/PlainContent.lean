import Handbook.Proofs.Words

/-! Content of words alone. Reading goes from left to right and keeps, beside what it has finished, what
may still find a partner; words, the spaces between them and the turns between their lines leave nothing
of that kind behind, so all that has been read is written as it was. What a stretch of content adds does
not depend on what was read before it, so the stretches are put together from the last to the first. -/
namespace Handbook.PlainContent
open Markdown Writing Words

/-! ## Rows -/

/-- Parts in a row, one at least. -/
structure Row (α : Type) where
  first : α
  more : List α

/-- The texts of the parts, with one text between any two of them. -/
def Row.joined (between : List β) (text : α → List β) (row : Row α) : List β :=
  between.intercalate ((row.first :: row.more).map text)

@[simp] theorem Row.joined_single (between : List β) (text : α → List β) (part : α) :
    Row.joined between text ⟨part, []⟩ = text part := by
  simp [Row.joined, List.intercalate]

@[simp] theorem Row.joined_cons (between : List β) (text : α → List β) (part next : α)
    (more : List α) : Row.joined between text ⟨part, next :: more⟩ =
      text part ++ (between ++ Row.joined between text ⟨next, more⟩) := by
  simp [Row.joined, List.intercalate]

/-- The text of a line of words, with one space between any two of them. -/
def lineText (line : Row Word) : List Char := line.joined [' '] Word.chars

@[simp] theorem lineText_single (word : Word) : lineText ⟨word, []⟩ = word.chars :=
  Row.joined_single ..

@[simp] theorem lineText_cons (word next : Word) (more : List Word) :
    lineText ⟨word, next :: more⟩ = word.chars ++ ' ' :: lineText ⟨next, more⟩ :=
  Row.joined_cons ..

/-- A line begins with the first character of its first word. -/
theorem lineText_eq_cons (line : Row Word) :
    ∃ c rest, lineText line = c :: rest ∧ c.isAlphanum = true := by
  obtain ⟨word, more⟩ := line
  obtain ⟨c, rest, written, plain⟩ := word.exists_eq_cons
  cases more with
  | nil => exact ⟨c, rest, by rw [lineText_single, written], plain⟩
  | cons next more =>
    exact ⟨c, rest ++ ' ' :: lineText ⟨next, more⟩, by rw [lineText_cons, written]; rfl, plain⟩

/-- The text of a paragraph, with a line feed between any two of its lines. -/
def paragraphText (paragraph : Row (Row Word)) : List Char := paragraph.joined ['\n'] lineText

/-- The turn between two lines that stand at the margin. -/
def turn : Atom := .turn ⟨['\n'], [], []⟩

/-- The content of a paragraph. -/
def paragraphContent (paragraph : Row (Row Word)) : List Atom :=
  paragraph.joined [turn] fun line => ofText (lineText line)

@[simp] theorem paragraphText_single (line : Row Word) : paragraphText ⟨line, []⟩ = lineText line :=
  Row.joined_single ..

@[simp] theorem paragraphText_cons (line next : Row Word) (more : List (Row Word)) :
    paragraphText ⟨line, next :: more⟩ = lineText line ++ '\n' :: paragraphText ⟨next, more⟩ :=
  Row.joined_cons ..

@[simp] theorem paragraphContent_single (line : Row Word) :
    paragraphContent ⟨line, []⟩ = ofText (lineText line) := Row.joined_single ..

@[simp] theorem paragraphContent_cons (line next : Row Word) (more : List (Row Word)) :
    paragraphContent ⟨line, next :: more⟩ =
      ofText (lineText line) ++ turn :: paragraphContent ⟨next, more⟩ := Row.joined_cons ..

/-! ## What has been written -/

theorem writeInlines_append (left right : List Inline) (w : Writer) :
    writeInlines (left ++ right) w = writeInlines right (writeInlines left w) := by
  induction left generalizing w with
  | nil => rfl
  | cons inline left ih =>
    simp only [List.cons_append, writeInlines]
    exact ih _

/-- A reading in which nothing waits, and of which this text is written. -/
structure Settled (r : Reading) (text : List Char) : Prop where
  unbracketed : r.brackets = []
  finished : ∃ inlines, r.pieces.reverse = inlines.map Piece.done ∧
    ∀ w, writeInlines inlines w = w.put text

theorem settled_nothing : Settled ⟨[], [], none, []⟩ [] := ⟨rfl, [], rfl, fun _ => rfl⟩

namespace Settled

variable {r : Reading} {text : List Char} {markup : Inline}

/-- Finished markup adds what is written for it. -/
theorem push (settled : Settled r text) (writes : ∀ w, writeInline markup w = w.put cs)
    (last : Option Char) : Settled (r.push (.done markup) last) (text ++ cs) := by
  obtain ⟨unbracketed, inlines, pieces, written⟩ := settled
  refine ⟨unbracketed, inlines ++ [markup], ?_, ?_⟩
  · simp [Reading.push, pieces]
  · intro w
    rw [writeInlines_append, written]
    simp only [writeInlines, writes, put_put]

theorem pushText (settled : Settled r text) (plain : bodyText cs = cs) :
    Settled (r.pushText cs) (text ++ cs) :=
  settled.push (fun w => by rw [writeInline, plain]) _

theorem settleEnd_done (inlines : List Inline) :
    Piece.settleEnd (inlines.map .done) = inlines.map .done := by
  unfold Piece.settleEnd
  split
  · rename_i ends
    have member := List.mem_of_getLast? ends
    simp at member
  · rfl

theorem curveQuotes_done (single double : Bool) (inlines : List Inline) :
    Piece.curveQuotes single double (inlines.map .done) = inlines.map .done := by
  induction inlines with
  | nil => rfl
  | cons inline inlines ih =>
    simp only [List.map_cons, Piece.curveQuotes, ih]

theorem foldl_step_done (inlines after : List Inline) :
    (inlines.map .done).foldl Piece.Pairing.step ⟨[], after, 0⟩ = ⟨[], inlines.reverse ++ after, 0⟩ := by
  induction inlines generalizing after with
  | nil => rfl
  | cons inline inlines ih =>
    simp only [List.map_cons, List.foldl_cons, Piece.Pairing.step, Piece.Pairing.add, ih,
      List.reverse_cons, List.append_assoc, List.singleton_append]

/-- Finished markup has nothing to resolve. -/
theorem resolve_done (inlines : List Inline) : Piece.resolve (inlines.map .done) = inlines := by
  rw [Piece.resolve, settleEnd_done, curveQuotes_done, foldl_step_done]
  simp [Piece.Pairing.finish, Nat.repeat]

theorem writeInlines_finish (settled : Settled r text) (w : Writer) :
    writeInlines r.finish w = w.put text := by
  obtain ⟨unbracketed, inlines, pieces, written⟩ := settled
  have bare : r.dropBrackets = r := by
    rw [Reading.dropBrackets, unbracketed]
    rfl
  rw [Reading.finish, bare, pieces, resolve_done, written]

end Settled

/-! ## Reading content -/

variable {ctx : ReadingContext} {atoms : List Atom} {text : List Char}

/-- Content adds this text to whatever is written of what was read before. -/
def ReadsAs (ctx : ReadingContext) (atoms : List Atom) (text : List Char) : Prop :=
  ∀ r before, Settled r before → Settled (Reading.run ctx r atoms) (before ++ text)

theorem readsAs_nil : ReadsAs ctx [] [] := by
  intro r before settled
  rwa [Reading.run, List.append_nil]

theorem readsAs_turn (behind : ReadsAs ctx atoms text) :
    ReadsAs ctx (turn :: atoms) ('\n' :: text) := by
  intro r before settled
  have broken : Settled (r.push (.done .softBreak) none) (before ++ ['\n']) :=
    settled.push (fun w => by rw [writeInline]; rfl) none
  have read := behind _ _ broken
  rw [turn, Reading.run]
  simpa using read

theorem run_char {r after : Reading} (taken : r.readChar ctx c atoms = (after, used)) :
    Reading.run ctx r (.char c :: atoms) = Reading.run ctx after (atoms.drop used) := by
  rw [Reading.run, taken]

/-- A space before a character that is none is text. -/
theorem readsAs_space (solid : isGap c = false) (behind : ReadsAs ctx (.char c :: atoms) text) :
    ReadsAs ctx (.char ' ' :: .char c :: atoms) (' ' :: text) := by
  intro r before settled
  have alone : (Atom.char c :: atoms).takeWhile Atom.isGap = [] :=
    List.takeWhile_cons_of_neg (by simpa [Atom.isGap] using solid)
  have space : r.readChar ctx ' ' (.char c :: atoms) = (r.pushText [' '], 0) := by
    simp [Reading.readChar, Reading.readGap, alone, isGap]
  have spaced : Settled (r.pushText [' ']) (before ++ [' ']) := settled.pushText rfl
  have read := behind _ _ spaced
  rw [run_char space]
  simpa using read

theorem lineChars_ofText_append (cs : List Char) (atoms : List Atom) :
    lineChars (ofText cs ++ atoms) = cs ++ lineChars atoms := by
  induction cs with
  | nil => rfl
  | cons c cs ih => exact congrArg (c :: ·) ih

theorem isSpecial_of_isAlphanum (plain : c.isAlphanum = true) : Reading.isSpecial c = false := by
  simp [Reading.isSpecial, isGap_of_isAlphanum plain, ne_of_isAlphanum plain,
    ne_of_isAlphanum plain (d := backtick) rfl]

/-- At a letter or digit, text is taken up to the next character that may end it. -/
theorem readChar_of_isAlphanum (plain : c.isAlphanum = true) (r : Reading) :
    r.readChar ctx c atoms =
      let more := (lineChars atoms).takeWhile fun d => !Reading.isSpecial d
      (r.pushText (c :: more), more.length) := by
  simp [Reading.readChar, ne_of_isAlphanum plain, isGap_of_isAlphanum plain,
    ne_of_isAlphanum plain (d := backtick) rfl]

/-- A word is text as a whole if what stands behind it on its line may end it. -/
theorem readsAs_word (word : Word)
    (ends : (lineChars atoms).takeWhile (fun c => !Reading.isSpecial c) = [])
    (behind : ReadsAs ctx atoms text) :
    ReadsAs ctx (ofText word.chars ++ atoms) (word.chars ++ text) := by
  intro r before settled
  obtain ⟨c, rest, written, plain⟩ := word.exists_eq_cons
  have further : ∀ d ∈ rest, (!Reading.isSpecial d) = true := fun d member => by
    simp [isSpecial_of_isAlphanum (word.plain d (by rw [written]; exact List.mem_cons_of_mem c member))]
  have whole : (lineChars (ofText rest ++ atoms)).takeWhile (fun d => !Reading.isSpecial d) = rest := by
    rw [lineChars_ofText_append, List.takeWhile_append_of_pos further, ends, List.append_nil]
  have taken : r.readChar ctx c (ofText rest ++ atoms) = (r.pushText word.chars, rest.length) := by
    rw [readChar_of_isAlphanum plain, whole, written]
  have behindWord : (ofText rest ++ atoms).drop rest.length = atoms := List.drop_left' (List.length_map ..)
  have read := behind _ _ (settled.pushText word.bodyText_chars)
  have split : ofText word.chars ++ atoms = .char c :: (ofText rest ++ atoms) := by
    rw [written]
    rfl
  rw [split, run_char taken, behindWord, ← List.append_assoc]
  exact read

/-- A line is text as a whole if nothing else stands on it. -/
theorem readsAs_line (line : Row Word) (ends : lineChars atoms = [])
    (behind : ReadsAs ctx atoms text) :
    ReadsAs ctx (ofText (lineText line) ++ atoms) (lineText line ++ text) := by
  obtain ⟨word, more⟩ := line
  induction more generalizing word with
  | nil =>
    rw [lineText_single]
    exact readsAs_word word (by rw [ends]; rfl) behind
  | cons next more ih =>
    obtain ⟨c, rest, written, plain⟩ := lineText_eq_cons ⟨next, more⟩
    have further := ih next
    rw [written] at further
    have read := readsAs_word word rfl (readsAs_space (isGap_of_isAlphanum plain) further)
    simpa [ofText, written] using read

theorem readsAs_paragraph (paragraph : Row (Row Word)) :
    ReadsAs ctx (paragraphContent paragraph) (paragraphText paragraph) := by
  obtain ⟨line, more⟩ := paragraph
  induction more generalizing line with
  | nil =>
    have read : ReadsAs ctx (ofText (lineText line) ++ []) (lineText line ++ []) :=
      readsAs_line line rfl readsAs_nil
    simpa using read
  | cons next more ih =>
    rw [paragraphContent_cons, paragraphText_cons]
    exact readsAs_line line rfl (readsAs_turn (ih next))

/-- The content of a paragraph of words is written as its text. -/
theorem writeInlines_paragraph (paragraph : Row (Row Word)) (w : Writer) :
    writeInlines (inlinesOf ctx (paragraphContent paragraph)) w = w.put (paragraphText paragraph) :=
  (readsAs_paragraph paragraph _ _ settled_nothing).writeInlines_finish w

end Handbook.PlainContent
