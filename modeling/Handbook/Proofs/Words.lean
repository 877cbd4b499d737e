import Handbook.Proofs.SourceLines
import Handbook.Proofs.Writing

/-! Words of ASCII letters and digits. Nothing in Markdown or in HTML is made of these alone, so a word
begins no block, stops no text and is written as it stands; all of that comes from one fact, that a
letter or digit is none of the characters which mean something. -/
namespace Handbook.Words
open Markdown SourceLines Writing

/-- A word: letters and digits, one at least. -/
structure Word where
  chars : List Char
  nonempty : chars ≠ []
  plain : ∀ c ∈ chars, c.isAlphanum = true

/-- A word that is spelled out. -/
def Word.spelled (text : String) (nonempty : text.toList ≠ [])
    (plain : text.toList.all Char.isAlphanum = true) : Word :=
  ⟨text.toList, nonempty, List.all_eq_true.mp plain⟩

/-! ## Letters and digits -/

variable {c d : Char}

/-- A letter or digit is no character that is neither. -/
theorem ne_of_isAlphanum (plain : c.isAlphanum = true) (other : d.isAlphanum = false) : c ≠ d := by
  rintro rfl
  rw [plain] at other
  cases other

theorem isGap_of_isAlphanum (plain : c.isAlphanum = true) : isGap c = false := by
  simp [isGap, ne_of_isAlphanum plain]

theorem isSpace_of_isAlphanum (plain : c.isAlphanum = true) : isSpace c = false := by
  simp [isSpace, isGap_of_isAlphanum plain, ne_of_isAlphanum plain]

theorem escapeChar_of_isAlphanum (plain : c.isAlphanum = true) : Text.escapeChar c = [c] := by
  have apart : ∀ d : Char, d.isAlphanum = false → c ≠ d := fun _ => ne_of_isAlphanum plain
  unfold Text.escapeChar
  split
  · exact absurd rfl (apart '&' rfl)
  · exact absurd rfl (apart '<' rfl)
  · exact absurd rfl (apart '>' rfl)
  · exact absurd rfl (apart '"' rfl)
  · rfl

theorem bodyChar_of_isAlphanum (plain : c.isAlphanum = true) : bodyChar c = [c] := by
  simp [bodyChar, escapeChar_of_isAlphanum plain]

theorem attributeChar_of_isAlphanum (plain : c.isAlphanum = true) : attributeChar c = [c] := by
  simp [attributeChar, ne_of_isAlphanum plain, escapeChar_of_isAlphanum plain]

/-- Letters and digits escape nothing and refer to nothing. -/
theorem unescapeText_of_plain (plain : ∀ c ∈ cs, Char.isAlphanum c = true) :
    unescapeText inTable cs = cs := by
  induction cs with
  | nil => rw [unescapeText]
  | cons c cs ih =>
    have apart : ∀ d : Char, d.isAlphanum = false → c ≠ d := fun _ =>
      ne_of_isAlphanum (plain c List.mem_cons_self)
    rw [unescapeText, ih fun d member => plain d (List.mem_cons_of_mem c member)]
    · exact fun _ _ same _ => apart '\\' rfl same
    · exact apart '\r' rfl
    · exact apart '&' rfl

namespace Word

theorem exists_eq_cons (word : Word) : ∃ c rest, word.chars = c :: rest ∧ c.isAlphanum = true := by
  obtain ⟨c, rest, written⟩ := List.exists_cons_of_ne_nil word.nonempty
  exact ⟨c, rest, written, word.plain c (by rw [written]; exact List.mem_cons_self)⟩

theorem unbroken (word : Word) : Unbroken word.chars := fun c member =>
  ⟨ne_of_isAlphanum (word.plain c member) rfl, ne_of_isAlphanum (word.plain c member) rfl⟩

@[simp] theorem bodyText_chars (word : Word) : bodyText word.chars = word.chars :=
  bodyText_of_plain fun c member => bodyChar_of_isAlphanum (word.plain c member)

@[simp] theorem attributeText_chars (word : Word) : attributeText word.chars = word.chars :=
  attributeText_of_plain fun c member => attributeChar_of_isAlphanum (word.plain c member)

@[simp] theorem unescapeText_chars (word : Word) (inTable : Bool) :
    unescapeText inTable word.chars = word.chars := unescapeText_of_plain word.plain

end Word

end Handbook.Words
