import Handbook.Text.Quoted
import Mathlib.Data.List.Basic

/-! What quoting guarantees. A quoted text shows every character of its own, so it is one line
whatever it quotes, and it can be read back, so two texts are never quoted alike. -/
namespace Handbook.Quotations
open Text

/-! ## Hexadecimal digits -/

private theorem hexValue?_digitChar : ∀ digit < 16, hexValue? digit.digitChar = some digit := by
  decide

/-- The digits of a number stand for that number. -/
theorem hexNumber_lowerHex (n : Nat) : hexNumber (lowerHex n) = n := by
  induction n using Nat.strongRecOn with
  | ind n ih =>
    rw [lowerHex, Nat.toDigits_eq_if (by decide)]
    split
    · rename_i small
      simp [hexNumber, hexValue?_digitChar n small]
    · rename_i large
      have rest := ih (n / 16) (by omega)
      have last := hexValue?_digitChar (n % 16) (Nat.mod_lt n (by decide))
      rw [hexNumber, lowerHex] at rest
      rw [hexNumber, List.foldl_append, rest]
      simp only [List.foldl_cons, List.foldl_nil, last, Option.getD_some]
      omega

private theorem digitChar_plain : ∀ digit < 16,
    digit.digitChar ≠ '\x7d' ∧ 0x20 ≤ digit.digitChar.toNat ∧ digit.digitChar.toNat < 0x7F := by
  decide

/-- A hexadecimal digit is neither a brace nor beyond the characters that are seen everywhere. -/
theorem lowerHex_plain (n : Nat) :
    ∀ c ∈ lowerHex n, c ≠ '\x7d' ∧ 0x20 ≤ c.toNat ∧ c.toNat < 0x7F := by
  induction n using Nat.strongRecOn with
  | ind n ih =>
    intro c member
    rw [lowerHex, Nat.toDigits_eq_if (by decide)] at member
    split at member
    · rename_i small
      rw [List.mem_singleton.mp member]
      exact digitChar_plain n small
    · rename_i large
      rcases List.mem_append.mp member with front | last
      · exact ih (n / 16) (by omega) c front
      · rw [List.mem_singleton.mp last]
        exact digitChar_plain (n % 16) (Nat.mod_lt n (by decide))

/-! ## Reading back -/

/-- The character that begins a quoted text, and what is left of the text behind it. -/
def readQuoted? : List Char → Option (Char × List Char)
  | '\\' :: 't' :: rest => some ('\t', rest)
  | '\\' :: 'n' :: rest => some ('\n', rest)
  | '\\' :: 'r' :: rest => some ('\r', rest)
  | '\\' :: '0' :: rest => some ('\x00', rest)
  | '\\' :: 'u' :: rest =>
    let digits := (rest.drop 1).takeWhile (· != '\x7d')
    some (Char.ofNat (hexNumber digits), rest.drop (digits.length + 2))
  | '\\' :: c :: rest => some (c, rest)
  | c :: rest => some (c, rest)
  | [] => none

/-- Each character reads back from its own quoted form, whatever follows it. -/
theorem readQuoted?_quoteChar_append (c : Char) (rest : List Char) :
    readQuoted? (quoteChar c ++ rest) = some (c, rest) := by
  unfold quoteChar
  split
  · rfl
  · rfl
  · rfl
  · rfl
  · rfl
  · rfl
  · rename_i notBackslash _
    split
    · have digits : (lowerHex c.toNat ++ '\x7d' :: rest).takeWhile (· != '\x7d') =
          lowerHex c.toNat := by
        rw [List.takeWhile_append_of_pos]
        · simp
        · intro digit member
          simpa using (lowerHex_plain c.toNat digit member).1
      simp [readQuoted?, digits, hexNumber_lowerHex, Char.ofNat_toNat]
    · rw [List.singleton_append, readQuoted?]
      all_goals
        intros
        simp_all

/-- Characters in a row are known from their quoted forms in a row. -/
theorem eq_of_quoted_eq {cs others : List Char}
    (same : cs.flatMap quoteChar = others.flatMap quoteChar) : cs = others := by
  induction cs generalizing others with
  | nil =>
    cases others with
    | nil => rfl
    | cons d others =>
      have read := readQuoted?_quoteChar_append d (others.flatMap quoteChar)
      rw [← List.flatMap_cons, ← same] at read
      cases read
  | cons c cs ih =>
    have read := readQuoted?_quoteChar_append c (cs.flatMap quoteChar)
    rw [← List.flatMap_cons, same] at read
    cases others with
    | nil => cases read
    | cons d others =>
      rw [List.flatMap_cons, readQuoted?_quoteChar_append] at read
      obtain ⟨rfl, rest⟩ := Prod.mk.inj (Option.some.inj read)
      rw [ih rest.symm]

/-- A quoted text tells which text it quotes. -/
theorem quote_eq_iff : quote s = quote t ↔ s = t := by
  constructor
  · intro same
    have inside := congrArg String.toList same
    simp only [quote, String.toList_ofList, List.cons_append, List.cons.injEq, true_and,
      List.append_left_inj] at inside
    exact String.toList_inj.mp (eq_of_quoted_eq inside)
  · rintro rfl
    rfl

/-! ## One line -/

/-- Whether a character ends a line wherever it is shown. -/
def endsLine (c : Char) : Bool :=
  ['\n', '\x0b', '\x0c', '\r', '\x85', '\u2028', '\u2029'].contains c

private theorem unprintable_not_ascii :
    unprintableRanges.all (fun range => range.2 < 0x20 || 0x7F ≤ range.1) = true := by
  decide +kernel

/-- The characters from the space to the tilde show themselves. -/
theorem isPrintable_ascii (low : 0x20 ≤ c.toNat) (high : c.toNat < 0x7F) :
    isPrintable c = true := by
  rw [isPrintable, CodeRanges.has, Bool.not_eq_true', List.any_eq_false]
  intro range member
  have apart := List.all_eq_true.mp unprintable_not_ascii range member
  simp only [Bool.or_eq_true, decide_eq_true_eq, Bool.and_eq_true, not_and, Nat.not_le] at apart ⊢
  omega

theorem endsLine_of_isPrintable (shown : isPrintable c = true) : endsLine c = false := by
  have hidden : ['\n', '\x0b', '\x0c', '\r', '\x85', '\u2028', '\u2029'].all
      (fun c => !isPrintable c) = true := by decide +kernel
  cases ends : endsLine c with
  | false => rfl
  | true =>
    have member := List.contains_iff_mem.mp ends
    have unprintable := List.all_eq_true.mp hidden c member
    rw [shown] at unprintable
    cases unprintable

private theorem seen_of_all {cs : List Char}
    (seen : cs.all (fun c => 0x20 ≤ c.toNat && c.toNat < 0x7F) = true) :
    ∀ c ∈ cs, 0x20 ≤ c.toNat ∧ c.toNat < 0x7F := by
  simpa using seen

/-- A character is quoted by characters that are seen everywhere, or else stands for itself, which it
does when it shows a glyph that is all its own. -/
theorem quoteChar_cases (c : Char) :
    (∀ written ∈ quoteChar c, 0x20 ≤ written.toNat ∧ written.toNat < 0x7F) ∨
      quoteChar c = [c] ∧ isPrintable c = true ∧ isExtending c = false := by
  unfold quoteChar
  split
  · exact .inl (seen_of_all rfl)
  · exact .inl (seen_of_all rfl)
  · exact .inl (seen_of_all rfl)
  · exact .inl (seen_of_all rfl)
  · exact .inl (seen_of_all rfl)
  · exact .inl (seen_of_all rfl)
  · split
    · left
      have front : ∀ written ∈ ['\\', 'u', '\x7b'],
          0x20 ≤ written.toNat ∧ written.toNat < 0x7F := seen_of_all rfl
      intro written member
      have pieces : written ∈ ['\\', 'u', '\x7b'] ++ lowerHex c.toNat ++ ['\x7d'] := member
      rcases List.mem_append.mp pieces with inside | last
      · rcases List.mem_append.mp inside with start | digit
        · exact front written start
        · exact (lowerHex_plain c.toNat written digit).2
      · rw [List.mem_singleton.mp last]
        decide
    · rename_i shown
      right
      simpa [and_comm] using shown

/-- Every character of a quoted text shows itself. -/
theorem isPrintable_quote (s : String) : ∀ c ∈ (quote s).toList, isPrintable c = true := by
  have mark : isPrintable '"' = true := isPrintable_ascii (by decide) (by decide)
  intro c member
  simp only [quote, String.toList_ofList, List.cons_append, List.mem_cons, List.mem_append,
    List.mem_flatMap, List.not_mem_nil, or_false] at member
  rcases member with rfl | ⟨original, _, written⟩ | rfl
  · exact mark
  · rcases quoteChar_cases original with plain | ⟨itself, shown, _⟩
    · exact isPrintable_ascii (plain c written).1 (plain c written).2
    · rw [itself, List.mem_singleton] at written
      rwa [written]
  · exact mark

/-- A quoted text is one line. -/
theorem not_endsLine_quote (s : String) : ∀ c ∈ (quote s).toList, endsLine c = false :=
  fun c member => endsLine_of_isPrintable (isPrintable_quote s c member)

end Handbook.Quotations
