/-! Reading UTF-8. A byte sequence falls into units: a well-formed sequence is a character, and the
longest start of one that breaks off is a unit without a character. A text is valid when every unit
is a character; read loosely, the other units show as U+FFFD. -/
namespace Handbook.Text

/-- Byte sequences: file contents and message bodies. -/
abbrev Bytes := List UInt8

/-- Where the reader stands between two bytes: `owing n code low high` has read the start of a
character, knows `code` of it, and owes `n + 1` bytes, the next of them between `low` and `high`. -/
inductive Utf8State where
  | start
  | owing (more : Nat) (code : Nat) (low high : Nat)
  deriving DecidableEq, Repr

/-- What a byte does at the start of a unit: it is a character, begins one, or is no start. -/
def Utf8State.open? (byte : Nat) : Option (Char ⊕ Utf8State) :=
  if byte < 0x80 then some (.inl (Char.ofNat byte))
  else if byte < 0xC2 then none
  else if byte < 0xE0 then some (.inr (.owing 0 (byte - 0xC0) 0x80 0xBF))
  else if byte = 0xE0 then some (.inr (.owing 1 0 0xA0 0xBF))
  else if byte = 0xED then some (.inr (.owing 1 13 0x80 0x9F))
  else if byte < 0xF0 then some (.inr (.owing 1 (byte - 0xE0) 0x80 0xBF))
  else if byte = 0xF0 then some (.inr (.owing 2 0 0x90 0xBF))
  else if byte < 0xF4 then some (.inr (.owing 2 (byte - 0xF0) 0x80 0xBF))
  else if byte = 0xF4 then some (.inr (.owing 2 4 0x80 0x8F))
  else none

/-- The units of a byte sequence, each with its character if it has one. -/
def utf8Units : Utf8State → Bytes → List (Option Char)
  | .start, [] => []
  | .owing .., [] => [none]
  | .start, byte :: rest =>
    match Utf8State.open? byte.toNat with
    | some (.inl c) => some c :: utf8Units .start rest
    | some (.inr state) => utf8Units state rest
    | none => none :: utf8Units .start rest
  | .owing more code low high, byte :: rest =>
    if low ≤ byte.toNat ∧ byte.toNat ≤ high then
      let code := code * 64 + (byte.toNat - 0x80)
      match more with
      | 0 => some (Char.ofNat code) :: utf8Units .start rest
      | more + 1 => utf8Units (.owing more code 0x80 0xBF) rest
    else
      match Utf8State.open? byte.toNat with
      | some (.inl c) => none :: some c :: utf8Units .start rest
      | some (.inr state) => none :: utf8Units state rest
      | none => none :: none :: utf8Units .start rest

/-- The text of a valid byte sequence. -/
def decodeUtf8? (bytes : Bytes) : Option (List Char) := (utf8Units .start bytes).mapM id

/-- The text of any byte sequence, with U+FFFD for every unit that is no character. -/
def decodeUtf8Lossy (bytes : Bytes) : List Char :=
  (utf8Units .start bytes).map (·.getD '\uFFFD')

/-- The bytes of a text. -/
def encodeUtf8 (cs : List Char) : Bytes := cs.flatMap String.utf8EncodeChar

/-- The bytes of a string. -/
def utf8 (s : String) : Bytes := encodeUtf8 s.toList

end Handbook.Text
