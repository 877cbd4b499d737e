import Handbook.Menu
import Handbook.Settings

/-! Flags of the command line: their spellings, the values they take, and what is said about a
misuse of them. -/
namespace Handbook.CommandLine

/-- The flags of the program and of its commands. -/
inductive Flag where
  | root
  | linkStyle
  | noRibbon
  | timeout
  | verbose
  | quiet
  | addr
  | help
  | version
  deriving DecidableEq, Repr

/-- What the value of a flag has to be. -/
inductive ValueKind where
  | text
  | path
  | style
  | seconds
  deriving DecidableEq, Repr

namespace Flag

/-- The word for the flag behind two dashes. -/
def long : Flag → String
  | root => "root"
  | linkStyle => "link-style"
  | noRibbon => "no-ribbon"
  | timeout => "timeout"
  | verbose => "verbose"
  | quiet => "quiet"
  | addr => "addr"
  | help => "help"
  | version => "version"

/-- The letter for the flag behind one dash. -/
def short? : Flag → Option Char
  | verbose => some 'v'
  | quiet => some 'q'
  | help => some 'h'
  | version => some 'V'
  | _ => none

/-- What the flag takes as its value, with the name that the value goes by. The others are
switches. -/
def value? : Flag → Option (ValueKind × String)
  | root => some (.path, "ROOT")
  | linkStyle => some (.style, "LINK_STYLE")
  | timeout => some (.seconds, "TIMEOUT")
  | addr => some (.text, "ADDR")
  | _ => none

/-- The flag as it is shown to the user. -/
def shown (flag : Flag) : String :=
  "--" ++ flag.long ++
    match flag.value? with
    | some (_, name) => " <" ++ name ++ ">"
    | none => ""

end Flag

/-- Why a number cannot be read. -/
inductive NumberFault where
  | empty
  | digit
  | large
  deriving DecidableEq, Repr

/-- The fault in words. -/
def NumberFault.message : NumberFault → String
  | .empty => "cannot parse integer from empty string"
  | .digit => "invalid digit found in string"
  | .large => "number too large to fit in target type"

/-- Reads digits behind a number read so far, which has to stay below a limit. The first fault from
the left is the one reported. -/
def readDigits (limit : Nat) : Nat → List Char → Except NumberFault Nat
  | n, [] => .ok n
  | n, c :: cs =>
    if c.isDigit then
      if n * 10 + (c.toNat - 48) < limit then readDigits limit (n * 10 + (c.toNat - 48)) cs
      else .error .large
    else .error .digit

/-- Reads a decimal number below a limit. A plus sign may stand in front. -/
def readNumber (limit : Nat) (text : String) : Except NumberFault Nat :=
  match text.toList with
  | [] => .error .empty
  | ['+'] => .error .digit
  | '+' :: digits => readDigits limit 0 digits
  | digits => readDigits limit 0 digits

/-- The first number of seconds that is too large for the program. -/
def secondsLimit : Nat := UInt64.size

/-- The link style that a word names. -/
def linkStyle? (word : String) : Option LinkStyle :=
  if word = "plain" then some .plain else if word = "emphasized" then some .emphasized else none

/-- How a command line is misused. -/
inductive Misuse where
  | unknownCommand (word : String)
  | unexpectedWord (word : String)
  | unexpectedValue (value : String) (flag : Flag)
  | missingValue (flag : Flag)
  | invalidValue (value : String) (flag : Flag)
  | invalidNumber (value : String) (flag : Flag) (fault : NumberFault)
  | repeated (flag : Flag)
  | conflict (first second : Flag)
  | missingCommand
  | missingWord
  deriving DecidableEq, Repr

/-- The complaint, up to its first line end. -/
def Misuse.message : Misuse → String
  | .unknownCommand word => "unrecognized subcommand '" ++ word ++ "'"
  | .unexpectedWord word => "unexpected argument '" ++ word ++ "' found"
  | .unexpectedValue value flag =>
    "unexpected value '" ++ value ++ "' for '" ++ flag.shown ++ "' found; no more were expected"
  | .missingValue flag => "a value is required for '" ++ flag.shown ++ "' but none was supplied"
  | .invalidValue value flag => "invalid value '" ++ value ++ "' for '" ++ flag.shown ++ "'"
  | .invalidNumber value flag fault =>
    "invalid value '" ++ value ++ "' for '" ++ flag.shown ++ "': " ++ fault.message
  | .repeated flag => "the argument '" ++ flag.shown ++ "' cannot be used multiple times"
  | .conflict first second =>
    "the argument '" ++ first.shown ++ "' cannot be used with '" ++ second.shown ++ "'"
  | .missingCommand =>
    "'" ++ programName ++ "' requires a subcommand but one was not provided"
  | .missingWord => "the following required arguments were not provided:"

/-- What is wrong with a value, if anything is. -/
def ValueKind.fault? (flag : Flag) (value : String) : ValueKind → Option Misuse
  | .text => none
  | .path => if value = "" then some (.missingValue flag) else none
  | .style =>
    if value = "" then some (.missingValue flag)
    else if (linkStyle? value).isSome then none
    else some (.invalidValue value flag)
  | .seconds =>
    match readNumber secondsLimit value with
    | .ok _ => none
    | .error fault => some (.invalidNumber value flag fault)

end Handbook.CommandLine
