import Handbook.Proofs.Encodings

/-! What decoding gives back. Bytes read as the text that was encoded in them, and an ASCII byte reads
as its own character wherever it stands, so nothing else can be read as a dot or a slash. A text in
an address decodes to the bytes that it spells, whichever of them it writes as digits. -/
namespace Handbook.Decodings
open Text Encodings

/-! ## Reading back UTF-8 -/

/-- An ASCII byte in the encoding of a character is all of that encoding. -/
theorem toNat_eq_of_mem_utf8EncodeChar (member : byte ∈ String.utf8EncodeChar c)
    (small : byte.toNat < 0x80) : c.toNat = byte.toNat := by
  by_cases ascii : c.toNat < 0x80
  · rw [utf8EncodeChar_ascii ascii, List.mem_singleton] at member
    rw [member, UInt8.toNat_ofNat_of_lt' (Nat.lt_trans ascii (by decide))]
  · have value : c.val.toNat = c.toNat := rfl
    unfold String.utf8EncodeChar at member
    simp only [value] at member
    rw [if_neg (by omega)] at member
    split at member
    · simp only [List.mem_cons, List.not_mem_nil, or_false] at member
      rcases member with rfl | rfl <;> rw [UInt8.toNat_ofNat'] at small <;> omega
    · split at member
      · simp only [List.mem_cons, List.not_mem_nil, or_false] at member
        rcases member with rfl | rfl | rfl <;> rw [UInt8.toNat_ofNat'] at small <;> omega
      · simp only [List.mem_cons, List.not_mem_nil, or_false] at member
        rcases member with rfl | rfl | rfl | rfl <;> rw [UInt8.toNat_ofNat'] at small <;> omega

theorem open?_ascii (small : byte < 0x80) :
    Utf8State.open? byte = some (.inl (Char.ofNat byte)) :=
  if_pos small

/-- No character begins with a byte from inside another, and none with the bytes beyond the last. -/
private theorem open?_none (none : 0x80 ≤ lead ∧ lead < 0xC2 ∨ 0xF5 ≤ lead) :
    Utf8State.open? lead = .none := by
  rcases none with ⟨above, below⟩ | beyond
  · rw [Utf8State.open?, if_neg (by omega), if_pos below]
  · rw [Utf8State.open?, if_neg (by omega), if_neg (by omega), if_neg (by omega),
      if_neg (by omega), if_neg (by omega), if_neg (by omega), if_neg (by omega),
      if_neg (by omega), if_neg (by omega)]

private theorem open?_two (above : 0xC2 ≤ lead) (below : lead < 0xE0) :
    Utf8State.open? lead = some (.inr (.owing 0 (lead - 0xC0) 0x80 0xBF)) := by
  rw [Utf8State.open?, if_neg (by omega), if_neg (by omega), if_pos below]

/-- Among the first of three bytes, two leave less room for the second. -/
private theorem open?_three (above : 0xE0 ≤ lead) (below : lead < 0xF0) :
    Utf8State.open? lead = some (.inr (.owing 1 (lead - 0xE0)
      (if lead = 0xE0 then 0xA0 else 0x80) (if lead = 0xED then 0x9F else 0xBF))) := by
  by_cases overlong : lead = 0xE0
  · subst overlong
    rfl
  · by_cases surrogate : lead = 0xED
    · subst surrogate
      rfl
    · rw [Utf8State.open?, if_neg (by omega), if_neg (by omega), if_neg (by omega),
        if_neg overlong, if_neg surrogate, if_pos below, if_neg overlong, if_neg surrogate]

/-- The same holds among the first of four bytes. -/
private theorem open?_four (above : 0xF0 ≤ lead) (below : lead < 0xF5) :
    Utf8State.open? lead = some (.inr (.owing 2 (lead - 0xF0)
      (if lead = 0xF0 then 0x90 else 0x80) (if lead = 0xF4 then 0x8F else 0xBF))) := by
  by_cases overlong : lead = 0xF0
  · subst overlong
    rfl
  · by_cases beyond : lead = 0xF4
    · subst beyond
      rfl
    · rw [Utf8State.open?, if_neg (by omega), if_neg (by omega), if_neg (by omega),
        if_neg (by omega), if_neg (by omega), if_neg (by omega), if_neg overlong,
        if_pos (by omega), if_neg overlong, if_neg beyond]

private theorem utf8Units_open {byte : UInt8} (same : byte.toNat = lead)
    (opened : Utf8State.open? lead = some (.inr state)) (rest : Bytes) :
    utf8Units .start (byte :: rest) = utf8Units state rest := by
  rw [utf8Units, same, opened]

private theorem utf8Units_more {byte : UInt8} (same : byte.toNat = next + 0x80)
    (inRange : low ≤ next + 0x80 ∧ next + 0x80 ≤ high) (rest : Bytes) :
    utf8Units (.owing (more + 1) code low high) (byte :: rest) =
      utf8Units (.owing more (code * 64 + next) 0x80 0xBF) rest := by
  rw [utf8Units, same, if_pos inRange, Nat.add_sub_cancel]

private theorem utf8Units_last {byte : UInt8} (same : byte.toNat = next + 0x80)
    (inRange : low ≤ next + 0x80 ∧ next + 0x80 ≤ high) (rest : Bytes) :
    utf8Units (.owing 0 code low high) (byte :: rest) =
      some (Char.ofNat (code * 64 + next)) :: utf8Units .start rest := by
  rw [utf8Units, same, if_pos inRange, Nat.add_sub_cancel]

private theorem toNat_tail (code : Nat) :
    (UInt8.ofNat (code % 64 + 128)).toNat = code % 64 + 0x80 :=
  UInt8.toNat_ofNat_of_lt' (by simp only [UInt8.size]; omega)

private theorem toNat_lead (lead : Nat) (small : lead < 0x100) :
    (UInt8.ofNat lead).toNat = lead :=
  UInt8.toNat_ofNat_of_lt' small

/-- A character is read from its encoding, and reading goes on behind it. -/
theorem utf8Units_utf8EncodeChar_append (c : Char) (rest : Bytes) :
    utf8Units .start (String.utf8EncodeChar c ++ rest) = some c :: utf8Units .start rest := by
  have valid : c.toNat < 0xD800 ∨ 0xDFFF < c.toNat ∧ c.toNat < 0x110000 := c.valid
  have value : c.val.toNat = c.toNat := rfl
  have char : Char.ofNat c.toNat = c := Char.ofNat_toNat c
  unfold String.utf8EncodeChar
  simp only [value]
  generalize c.toNat = code at valid char
  split
  · have lead := toNat_lead code (by omega)
    rw [List.singleton_append, utf8Units, lead, open?_ascii (by omega), char]
  · split
    · have lead := toNat_lead (code / 64 % 32 + 192) (by omega)
      have whole : (code / 64 % 32 + 192 - 0xC0) * 64 + code % 64 = code := by omega
      rw [List.cons_append, utf8Units_open lead (open?_two (by omega) (by omega)),
        List.cons_append, utf8Units_last (toNat_tail code) (by omega), whole, char,
        List.nil_append]
    · split
      · have lead := toNat_lead (code / 4096 % 16 + 224) (by omega)
        have whole : ((code / 4096 % 16 + 224 - 0xE0) * 64 + code / 64 % 64) * 64 + code % 64 =
            code := by omega
        rw [List.cons_append, utf8Units_open lead (open?_three (by omega) (by omega)),
          List.cons_append, utf8Units_more (toNat_tail (code / 64)) (by split_ifs <;> omega),
          List.cons_append, utf8Units_last (toNat_tail code) (by omega), whole, char,
          List.nil_append]
      · have lead := toNat_lead (code / 262144 % 8 + 240) (by omega)
        have whole : (((code / 262144 % 8 + 240 - 0xF0) * 64 + code / 4096 % 64) * 64 +
            code / 64 % 64) * 64 + code % 64 = code := by omega
        rw [List.cons_append, utf8Units_open lead (open?_four (by omega) (by omega)),
          List.cons_append, utf8Units_more (toNat_tail (code / 4096)) (by split_ifs <;> omega),
          List.cons_append, utf8Units_more (toNat_tail (code / 64)) (by omega),
          List.cons_append, utf8Units_last (toNat_tail code) (by omega), whole, char,
          List.nil_append]

theorem utf8Units_encodeUtf8 (cs : List Char) :
    utf8Units .start (encodeUtf8 cs) = cs.map some := by
  induction cs with
  | nil => rfl
  | cons c rest ih =>
    have bytes : encodeUtf8 (c :: rest) = String.utf8EncodeChar c ++ encodeUtf8 rest := rfl
    rw [bytes, utf8Units_utf8EncodeChar_append, ih, List.map_cons]

/-- Bytes are valid when each of their units is a character, and the characters are their text. -/
theorem decodeUtf8?_eq_some_iff :
    decodeUtf8? bytes = some text ↔ utf8Units .start bytes = text.map some := by
  rw [decodeUtf8?]
  generalize utf8Units .start bytes = units
  induction units generalizing text with
  | nil => cases text <;> simp
  | cons unit units ih =>
    cases unit with
    | none => cases text <;> simp
    | some c =>
      cases text with
      | nil => simp [Option.bind_eq_some_iff]
      | cons d text => simp [Option.bind_eq_some_iff, ih, and_comm]

/-- Encoded text is valid and reads as that text. -/
theorem decodeUtf8?_encodeUtf8 (cs : List Char) : decodeUtf8? (encodeUtf8 cs) = some cs :=
  decodeUtf8?_eq_some_iff.mpr (utf8Units_encodeUtf8 cs)

/-- A valid text reads loosely as it reads strictly. -/
theorem decodeUtf8Lossy_of_valid (valid : decodeUtf8? bytes = some text) :
    decodeUtf8Lossy bytes = text := by
  rw [decodeUtf8Lossy, decodeUtf8?_eq_some_iff.mp valid, List.map_map]
  exact List.map_id text

/-! ## ASCII bytes -/

/-- What belongs to a character that has begun is never an ASCII byte. -/
def Expects : Utf8State → Prop
  | .start => True
  | .owing _ _ low _ => 0x80 ≤ low

private theorem expects_of_open? (opened : Utf8State.open? lead = some (.inr state)) :
    Expects state := by
  by_cases none : 0x80 ≤ lead ∧ lead < 0xC2 ∨ 0xF5 ≤ lead
  · rw [open?_none none] at opened
    cases opened
  · by_cases one : lead < 0x80
    · rw [open?_ascii one] at opened
      cases opened
    · by_cases two : lead < 0xE0
      · rw [open?_two (by omega) two] at opened
        cases opened
        exact Nat.le_refl _
      · by_cases three : lead < 0xF0
        · rw [open?_three (by omega) three] at opened
          cases opened
          simp only [Expects]
          split <;> decide
        · rw [open?_four (by omega) (by omega)] at opened
          cases opened
          simp only [Expects]
          split <;> decide

/-- An ASCII byte ends whatever was being read before it, and is read as its own character. -/
theorem utf8Units_append_ascii {byte : UInt8} (small : byte.toNat < 0x80)
    (expects : Expects state) (before after : Bytes) :
    utf8Units state (before ++ byte :: after) =
      utf8Units state before ++ some (Char.ofNat byte.toNat) :: utf8Units .start after := by
  fun_induction utf8Units state before with
  | case1 => simp [utf8Units, open?_ascii small]
  | case2 more code low high =>
    have outside : ¬(low ≤ byte.toNat ∧ byte.toNat ≤ high) := by
      simp only [Expects] at expects
      omega
    simp [utf8Units, open?_ascii small, outside]
  | case3 lead rest c opened ih => simp [utf8Units, opened, ih trivial]
  | case4 lead rest next opened ih => simp [utf8Units, opened, ih (expects_of_open? opened)]
  | case5 lead rest none ih => simp [utf8Units, none, ih trivial]
  | case6 code low high next rest inRange whole ih =>
    rw [List.cons_append, utf8Units, if_pos inRange]
    exact congrArg _ (ih trivial)
  | case7 code low high next rest inRange whole more ih =>
    rw [List.cons_append, utf8Units, if_pos inRange]
    exact ih (Nat.le_refl _)
  | case8 more code low high next rest outside c opened ih =>
    rw [List.cons_append, utf8Units, if_neg outside, opened]
    exact congrArg _ (congrArg _ (ih trivial))
  | case9 more code low high next rest outside state opened ih =>
    rw [List.cons_append, utf8Units, if_neg outside, opened]
    exact congrArg _ (ih (expects_of_open? opened))
  | case10 more code low high next rest outside opened ih =>
    rw [List.cons_append, utf8Units, if_neg outside, opened]
    exact congrArg _ (congrArg _ (ih trivial))

/-- However a text is garbled, the ASCII bytes in it are read. -/
theorem decodeUtf8Lossy_append_ascii {byte : UInt8} (small : byte.toNat < 0x80)
    (before after : Bytes) : decodeUtf8Lossy (before ++ byte :: after) =
      decodeUtf8Lossy before ++ Char.ofNat byte.toNat :: decodeUtf8Lossy after := by
  have start : Expects .start := trivial
  simp [decodeUtf8Lossy, utf8Units_append_ascii small start]

/-! ## Percent-decoding -/

/-- A text spells bytes when it stands for them character by character: a percent sign with two
hexadecimal digits of either case for one byte, and any other character for its own encoding. -/
inductive Spells : List Char → Bytes → Prop where
  | nil : Spells [] []
  | plain (other : c ≠ '%') (rest : Spells cs bytes) :
      Spells (c :: cs) (String.utf8EncodeChar c ++ bytes)
  | digits {first second : Char} {byte : UInt8} (high : hexValue? first = some (byte.toNat / 16))
      (low : hexValue? second = some (byte.toNat % 16)) (rest : Spells cs bytes) :
      Spells ('%' :: first :: second :: cs) (byte :: bytes)

theorem percentDecode_cons_plain {byte : UInt8} (plain : byte ≠ 0x25) (rest : Bytes) :
    percentDecode (byte :: rest) = byte :: percentDecode rest := by
  rw [percentDecode]
  intro high low tail same
  exact absurd same plain

theorem percentDecode_append_plain {before : Bytes} (plain : 0x25 ∉ before) (rest : Bytes) :
    percentDecode (before ++ rest) = before ++ percentDecode rest := by
  induction before with
  | nil => rfl
  | cons byte before ih =>
    rw [List.mem_cons, not_or] at plain
    rw [List.cons_append, percentDecode_cons_plain (Ne.symm plain.1), ih plain.2,
      List.cons_append]

private theorem percent_not_mem_utf8EncodeChar (other : c ≠ '%') :
    0x25 ∉ String.utf8EncodeChar c :=
  fun member => other (Char.toNat_inj.mp (toNat_eq_of_mem_utf8EncodeChar member (by decide)))

/-- A hexadecimal digit is one byte, and the byte is read as that digit. -/
private theorem hexDigit_bytes (digit : hexValue? c = some value) :
    String.utf8EncodeChar c = [UInt8.ofNat c.toNat] ∧
      Char.ofNat (UInt8.ofNat c.toNat).toNat = c := by
  have small : c.toNat < 0x80 := by
    unfold hexValue? at digit
    by_contra large
    rw [if_neg (by omega), if_neg (by omega), if_neg (by omega)] at digit
    cases digit
  refine ⟨utf8EncodeChar_ascii small, ?_⟩
  rw [toNat_lead _ (Nat.lt_trans small (by decide)), Char.ofNat_toNat]

/-- A text decodes to the bytes that it spells. -/
theorem percentDecode_of_spells (spelled : Spells text bytes) :
    percentDecode (encodeUtf8 text) = bytes := by
  induction spelled with
  | nil => rfl
  | @plain c cs bytes other rest ih =>
    have written : encodeUtf8 (c :: cs) = String.utf8EncodeChar c ++ encodeUtf8 cs := rfl
    rw [written, percentDecode_append_plain (percent_not_mem_utf8EncodeChar other), ih]
  | @digits cs bytes first second byte high low rest ih =>
    obtain ⟨firstByte, firstRead⟩ := hexDigit_bytes high
    obtain ⟨secondByte, secondRead⟩ := hexDigit_bytes low
    have written : encodeUtf8 ('%' :: first :: second :: cs) =
        0x25 :: UInt8.ofNat first.toNat :: UInt8.ofNat second.toNat :: encodeUtf8 cs := by
      simp only [encodeUtf8, List.flatMap_cons, firstByte, secondByte]
      rfl
    have value : UInt8.ofNat (byte.toNat / 16 * 16 + byte.toNat % 16) = byte := by
      rw [Nat.div_add_mod', UInt8.ofNat_toNat]
    rw [written, percentDecode, firstRead, secondRead, high, low]
    simp only [value, ih]

end Handbook.Decodings
