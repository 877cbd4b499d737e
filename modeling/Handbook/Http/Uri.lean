/-! Addresses of requests. An address is a path with or without a query, an authority alone, or both
behind a scheme. It is taken apart and checked here, and nothing in it is decoded. -/
namespace Handbook.Http

/-- An address in its parts. An authority alone has the empty path. -/
structure Uri where
  scheme : Option (List Char)
  authority : Option (List Char)
  path : List Char
  query : Option (List Char)
  deriving DecidableEq, Repr

/-- Whether the code of a character lies between two others. -/
def codeWithin (c : Char) (low high : Nat) : Bool := low ≤ c.toNat && c.toNat ≤ high

/-- Whether a character may stand in a path: most visible ones, and all beyond ASCII. -/
def isPathChar (c : Char) : Bool :=
  c == '!' || codeWithin c 0x24 0x3B || c == '=' || codeWithin c 0x40 0x5F ||
    codeWithin c 0x61 0x7E || 0x7F ≤ c.toNat || c == '"'

/-- Whether a character may stand in a query. -/
def isQueryChar (c : Char) : Bool :=
  c == '!' || codeWithin c 0x24 0x3B || c == '=' || 0x3F ≤ c.toNat

/-- Whether a character may stand in a scheme. -/
def isSchemeLetter (c : Char) : Bool := c.isAlphanum || "+-.~".toList.contains c

/-- Whether a character ends an authority. -/
def endsAuthority (c : Char) : Bool := c == '/' || c == '?' || c == '#'

/-- Whether a character may stand in an authority without a meaning of its own there. -/
def isAuthorityChar (c : Char) : Bool := c.isAlphanum || "!$&'()*+,-.;=_~".toList.contains c

/-- What has been read of an authority: the colons and percent signs that would belong to a host,
and the brackets around an address. -/
structure AuthorityReading where
  colons : Nat
  percent : Bool
  opened : Bool
  closed : Bool
  deriving DecidableEq, Repr

/-- Reads one character of an authority. What stands before an `@` or inside brackets is not part of
a host's name. -/
def AuthorityReading.add (reading : AuthorityReading) (c : Char) : Option AuthorityReading :=
  if c == ':' then
    if reading.colons < 8 then some { reading with colons := reading.colons + 1 } else none
  else if c == '[' then
    if reading.percent || reading.opened then none else some { reading with opened := true }
  else if c == ']' then
    if reading.opened && !reading.closed then some ⟨0, false, true, true⟩ else none
  else if c == '@' then some { reading with colons := 0, percent := false }
  else if c == '%' then some { reading with percent := true }
  else if isAuthorityChar c then some reading
  else none

/-- Whether a text is an authority, which may be empty. -/
def isAuthority (cs : List Char) : Bool :=
  match cs.foldlM AuthorityReading.add ⟨0, false, false, false⟩ with
  | some reading =>
    reading.opened == reading.closed && reading.colons ≤ 1 && !reading.percent &&
      cs.getLast? != some '@'
  | none => false

/-- A path and the query behind it. A fragment ends the address and is dropped unread. -/
def pathAndQuery? (cs : List Char) : Option (List Char × Option (List Char)) :=
  let path := cs.takeWhile fun c => c != '?' && c != '#'
  if path.all isPathChar then
    match cs.drop path.length with
    | '?' :: rest =>
      let query := rest.takeWhile (· != '#')
      if query.all isQueryChar then some (path, some query) else none
    | _ => some (path, none)
  else none

/-- The longest scheme that an address may have. -/
def schemeLimit : Nat := 64

/-- The longest address in bytes. -/
def uriLimit : Nat := 65534

/-- Takes the scheme and the mark behind it from the start of an address. The two schemes of the web
are written in small letters. -/
def scheme? (cs : List Char) : Option (List Char × List Char) :=
  let scheme := cs.takeWhile isSchemeLetter
  match cs.drop scheme.length with
  | ':' :: '/' :: '/' :: rest =>
    let small := scheme.map Char.toLower
    some (if small == "http".toList || small == "https".toList then small else scheme, rest)
  | _ => none

/-- Reads an address with a scheme, or an authority alone. -/
def Uri.absolute? (cs : List Char) : Option Uri :=
  match scheme? cs with
  | some (scheme, rest) =>
    let authority := rest.takeWhile fun c => !endsAuthority c
    if scheme.length ≤ schemeLimit && !authority.isEmpty && isAuthority authority then
      (pathAndQuery? (rest.drop authority.length)).map fun (path, query) =>
        ⟨some scheme, some authority, if path.isEmpty then ['/'] else path, query⟩
    else none
  | none => if isAuthority cs then some ⟨none, some cs, [], none⟩ else none

/-- Reads an address. -/
def Uri.parse? (text : String) : Option Uri :=
  if text.utf8ByteSize ≤ uriLimit then
    match text.toList with
    | [] => none
    | ['*'] => some ⟨none, none, ['*'], none⟩
    | '/' :: rest =>
      (pathAndQuery? ('/' :: rest)).map fun (path, query) => ⟨none, none, path, query⟩
    | cs => Uri.absolute? cs
  else none

/-- An address with a slash behind its path, if that is an address. -/
def Uri.withSlash? (uri : Uri) : Option (List Char) :=
  let path := uri.path ++ '/' :: (uri.query.map ('?' :: ·)).getD []
  match uri.scheme, uri.authority with
  | some scheme, some authority => some (scheme ++ "://".toList ++ authority ++ path)
  | none, none => some path
  | _, _ => none

end Handbook.Http
