import Handbook.Text.Hex
import Handbook.Text.Utf8

/-! Percent-encoding. A byte is written as itself where the context allows it and as `%` with two
hexadecimal digits elsewhere; decoding undoes both and leaves a lone `%` alone. -/
namespace Handbook.Text

/-- Whether a byte is a letter, a digit or one of `-._~`, which never need encoding. -/
def isUnreserved (byte : UInt8) : Bool :=
  let n := byte.toNat
  (0x30 ≤ n && n ≤ 0x39) || (0x41 ≤ n && n ≤ 0x5A) || (0x61 ≤ n && n ≤ 0x7A) ||
    n == 0x2D || n == 0x2E || n == 0x5F || n == 0x7E

/-- The encoded form of one byte. -/
def percentByte (byte : UInt8) : List Char :=
  ['%', upperHexDigit (byte.toNat / 16), upperHexDigit (byte.toNat % 16)]

/-- Writes the bytes that `keep` accepts as themselves and encodes the others. -/
def percentEncode (keep : UInt8 → Bool) (bytes : Bytes) : List Char :=
  bytes.flatMap fun byte => if keep byte then [Char.ofNat byte.toNat] else percentByte byte

/-- Replaces each encoded byte by the byte itself. -/
def percentDecode : Bytes → Bytes
  | 0x25 :: high :: low :: rest =>
    match hexValue? (Char.ofNat high.toNat), hexValue? (Char.ofNat low.toNat) with
    | some h, some l => UInt8.ofNat (h * 16 + l) :: percentDecode rest
    | _, _ => 0x25 :: percentDecode (high :: low :: rest)
  | byte :: rest => byte :: percentDecode rest
  | [] => []

end Handbook.Text
