import Handbook.Text.Percent
import Mathlib.Data.List.Basic

/-! What encoding keeps. Texts with the same bytes are the same text. Percent-encoding leaves a
text of unreserved characters as it is and makes every other text longer, and what it writes is
free of the characters that mean something to a route. -/
namespace Handbook.Encodings
open Text

/-- Whether a character never needs percent-encoding. -/
def isUnreservedChar (c : Char) : Bool := c.toNat < 0x80 && isUnreserved (UInt8.ofNat c.toNat)

/-- A text as a client writes it into an address: every byte but the unreserved ones encoded. -/
def urlText (cs : List Char) : List Char := percentEncode isUnreserved (encodeUtf8 cs)

theorem encodeUtf8_injective : Function.Injective encodeUtf8 := by
  intro left right same
  apply String.ofList_injective
  apply String.toByteArray_inj.mp
  simp only [String.toByteArray_ofList, List.utf8Encode]
  exact congrArg List.toByteArray same

theorem unreserved_lt (unreserved : isUnreserved byte = true) : byte.toNat < 0x80 := by
  simp only [isUnreserved, Bool.or_eq_true, Bool.and_eq_true, decide_eq_true_eq, beq_iff_eq]
    at unreserved
  omega

/-- A byte never takes less than one character. -/
theorem length_le_percentEncode (keep : UInt8 → Bool) (bytes : Bytes) :
    bytes.length ≤ (percentEncode keep bytes).length := by
  induction bytes with
  | nil => simp [percentEncode]
  | cons byte rest ih =>
    unfold percentEncode at ih ⊢
    rw [List.flatMap_cons, List.length_append, List.length_cons]
    split
    · simp only [List.length_singleton]
      omega
    · have digits : (percentByte byte).length = 3 := rfl
      omega

theorem urlText_cons (c : Char) (cs : List Char) :
    urlText (c :: cs) = urlText [c] ++ urlText cs := by
  simp [urlText, encodeUtf8, percentEncode]

theorem utf8EncodeChar_ascii (small : c.toNat < 0x80) :
    String.utf8EncodeChar c = [UInt8.ofNat c.toNat] := by
  unfold String.utf8EncodeChar
  exact if_pos (Nat.le_of_lt_succ small)

theorem urlText_unreserved (unreserved : isUnreservedChar c = true) : urlText [c] = [c] := by
  simp only [isUnreservedChar, Bool.and_eq_true, decide_eq_true_eq] at unreserved
  obtain ⟨small, kept⟩ := unreserved
  have value : (UInt8.ofNat c.toNat).toNat = c.toNat :=
    UInt8.toNat_ofNat_of_lt' (Nat.lt_trans small (by decide))
  simp [urlText, encodeUtf8, percentEncode, utf8EncodeChar_ascii small, kept, value]

/-- A character that is not unreserved takes more than one character: its single byte is encoded,
or it has several bytes. -/
theorem urlText_reserved (reserved : isUnreservedChar c = false) : 1 < (urlText [c]).length := by
  by_cases small : c.toNat < 0x80
  · have encoded : isUnreserved (UInt8.ofNat c.toNat) = false := by
      simpa [isUnreservedChar, small] using reserved
    simp [urlText, encodeUtf8, percentEncode, utf8EncodeChar_ascii small, encoded, percentByte]
  · have several : 1 < (String.utf8EncodeChar c).length := by
      have positive := c.utf8Size_pos
      have notSingle : c.utf8Size ≠ 1 := fun single =>
        small (Nat.lt_succ_of_le (Char.utf8Size_eq_one_iff.mp single))
      rw [String.length_utf8EncodeChar]
      omega
    have written := length_le_percentEncode isUnreserved (String.utf8EncodeChar c)
    simp only [urlText, encodeUtf8, List.flatMap_cons, List.flatMap_nil, List.append_nil]
    omega

theorem length_le_urlText (cs : List Char) : cs.length ≤ (urlText cs).length := by
  induction cs with
  | nil => simp
  | cons c rest ih =>
    rw [urlText_cons, List.length_append, List.length_cons]
    cases kept : isUnreservedChar c with
    | true =>
      rw [urlText_unreserved kept, List.length_singleton]
      omega
    | false =>
      have := urlText_reserved kept
      omega

/-- The texts that a client writes as they are are those of unreserved characters. -/
theorem urlText_eq_self_iff : urlText cs = cs ↔ ∀ c ∈ cs, isUnreservedChar c = true := by
  induction cs with
  | nil => simp [urlText, encodeUtf8, percentEncode]
  | cons c rest ih =>
    rw [urlText_cons, List.forall_mem_cons, ← ih]
    cases kept : isUnreservedChar c with
    | true => simp [urlText_unreserved kept]
    | false =>
      simp only [Bool.false_eq_true, false_and, iff_false]
      intro same
      have lengths := congrArg List.length same
      have longer := urlText_reserved kept
      have rest := length_le_urlText rest
      simp only [List.length_append, List.length_cons] at lengths
      omega

/-- What a client writes consists of unreserved characters and percent signs. -/
theorem urlText_chars (member : c ∈ urlText cs) : isUnreservedChar c = true ∨ c = '%' := by
  obtain ⟨byte, _, written⟩ := List.mem_flatMap.mp member
  split at written
  · rename_i kept
    have small := unreserved_lt kept
    obtain rfl := List.mem_singleton.mp written
    have ascii : ∀ n < 0x80, (Char.ofNat n).toNat = n := by decide
    left
    simp [isUnreservedChar, ascii _ small, small, kept]
  · have digits : ∀ n < 16, isUnreservedChar (upperHexDigit n) = true := by decide
    have bound := byte.toNat_lt
    simp only [percentByte, List.mem_cons, List.not_mem_nil, or_false] at written
    rcases written with rfl | rfl | rfl
    · exact .inr rfl
    · exact .inl (digits _ (by omega))
    · exact .inl (digits _ (by omega))

end Handbook.Encodings
