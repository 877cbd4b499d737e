import Handbook.Markdown.Character

/-! Addresses between angle brackets. The readers start behind the `<`, look at one line, and answer
with the length of the address when a `>` follows it. -/
namespace Handbook.Markdown

/-- What an address in angle brackets names. -/
inductive AddressKind where
  | uri
  | mailbox
  deriving DecidableEq, Repr

private def isSchemeChar (c : Char) : Bool := c.isAlphanum || c == '.' || c == '-' || c == '+'

/-- A URI: a scheme of two to thirty-two characters, a colon, and no blank, control or `<`. -/
def uriLength? (cs : List Char) : Option Nat :=
  let scheme := cs.takeWhile isSchemeChar
  let body := (cs.drop (scheme.length + 1)).takeWhile
    fun c => !(c == '>' || c == '<' || c.toNat ≤ 0x20)
  let length := scheme.length + 1 + body.length
  if (cs.head?.any Char.isAlpha) && (2 ≤ scheme.length && scheme.length ≤ 32) &&
      (cs.drop scheme.length).head? == some ':' && (cs.drop length).head? == some '>' then
    some length
  else none

private def isMailboxChar (c : Char) : Bool :=
  c.isAlphanum || ".!#$%&'*+/=?^_\x60\x7b|\x7d~-".toList.contains c

private def isDomainLabel (label : List Char) : Bool :=
  !label.isEmpty && label.length ≤ 63 && label.all (fun c => c.isAlphanum || c == '-') &&
    label.head? != some '-' && label.getLast? != some '-'

/-- A mail address: a local part, an at sign, and labels of letters, digits and inner hyphens. -/
def mailboxLength? (cs : List Char) : Option Nat :=
  let mailbox := cs.takeWhile isMailboxChar
  let domain := (cs.drop (mailbox.length + 1)).takeWhile
    fun c => c.isAlphanum || c == '-' || c == '.'
  let length := mailbox.length + 1 + domain.length
  if !mailbox.isEmpty && (cs.drop mailbox.length).head? == some '@' &&
      (domain.splitOn '.').all isDomainLabel && (cs.drop length).head? == some '>' then
    some length
  else none

/-- An address of either kind, the URI first. -/
def autolink? (cs : List Char) : Option (AddressKind × Nat) :=
  match uriLength? cs with
  | some n => some (.uri, n)
  | none => (mailboxLength? cs).map fun n => (.mailbox, n)

end Handbook.Markdown
