/-! Hexadecimal digits, as they appear in percent-encoding, in character references and in the
escapes of a quoted text. -/
namespace Handbook.Text

/-- The value of a hexadecimal digit of either case. -/
def hexValue? (c : Char) : Option Nat :=
  let n := c.toNat
  if 0x30 ≤ n ∧ n ≤ 0x39 then some (n - 0x30)
  else if 0x41 ≤ n ∧ n ≤ 0x46 then some (n - 0x37)
  else if 0x61 ≤ n ∧ n ≤ 0x66 then some (n - 0x57)
  else none

/-- The digit of a value below sixteen, with upper-case letters. -/
def upperHexDigit (n : Nat) : Char := Char.ofNat (if n < 10 then 0x30 + n else 0x37 + n)

/-- A number in hexadecimal without leading zeros, with lower-case letters. -/
def lowerHex (n : Nat) : List Char := Nat.toDigits 16 n

/-- The number that a run of hexadecimal digits stands for. -/
def hexNumber (digits : List Char) : Nat :=
  digits.foldl (fun total c => total * 16 + (hexValue? c).getD 0) 0

/-- The number that a run of decimal digits stands for. -/
def decimalNumber (digits : List Char) : Nat :=
  digits.foldl (fun total c => total * 10 + (c.toNat - 0x30)) 0

end Handbook.Text
