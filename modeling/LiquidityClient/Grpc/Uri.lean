/-!
# Addresses of the provider

The grammar of an absolute or scheme-less address, as a reader of its parts : a scheme before `://`,
an authority of a host with an optional port and user, a path and a query.
-/

namespace LiquidityClient.Uri

/-! ## Characters -/

/-- Is the character an ASCII letter or digit? -/
def isWord (c : Char) : Bool :=
  c.isAlphanum

/-- May the character stand in a scheme? -/
def isSchemeChar (c : Char) : Bool :=
  isWord c || c = '+' || c = '-' || c = '.'

/-- May the character stand in an authority, without a meaning of its own? -/
def isAuthorityChar (c : Char) : Bool :=
  isWord c || "!$&()*+,-.;=_~".toList.contains c || c = Char.ofNat 39

/-- May the character stand in a path? -/
def isPathChar (c : Char) : Bool :=
  let n := c.toNat
  n = 0x21 || (0x24 ≤ n && n ≤ 0x3b) || n = 0x3d || (0x40 ≤ n && n ≤ 0x5f)
    || (0x61 ≤ n && n ≤ 0x7e) || 0x7f < n || n = 0x22

/-- May the character stand in a query? -/
def isQueryChar (c : Char) : Bool :=
  let n := c.toNat
  n = 0x21 || (0x24 ≤ n && n ≤ 0x3b) || n = 0x3d || (0x3f ≤ n && n ≤ 0x7e) || 0x7f < n

/-! ## Scheme -/

/-- The longest scheme. -/
def maxSchemeLength : Nat := 64

/-- What follows the scheme, if there is one; nothing if the scheme is too long. -/
def behindScheme? (cs : List Char) : Option (Bool × List Char) :=
  match cs.dropWhile isSchemeChar with
  | ':' :: '/' :: '/' :: rest =>
    if (cs.takeWhile isSchemeChar).length ≤ maxSchemeLength then some (true, rest) else none
  | _ => some (false, cs)

/-! ## Authority -/

/-- What has been seen of an authority. -/
structure AuthorityScan where
  /-- Colons behind the last bracket or user. -/
  colons : Nat := 0
  opened : Bool := false
  closed : Bool := false
  /-- Is there a percent sign behind the last bracket or user? -/
  hasPercent : Bool := false
  /-- Was the last character the end of a user? -/
  afterUser : Bool := false

/-- The most colons in a row of parts. -/
def maxColons : Nat := 8

/-- The scan after one more character. -/
def AuthorityScan.step? (scan : AuthorityScan) (c : Char) : Option AuthorityScan :=
  if c = ':' then
    if scan.colons < maxColons then
      some { scan with colons := scan.colons + 1, afterUser := false }
    else none
  else if c = '[' then
    if scan.hasPercent ∨ scan.opened then none
    else some { scan with opened := true, afterUser := false }
  else if c = ']' then
    if scan.opened ∧ ¬scan.closed then
      some { scan with closed := true, colons := 0, hasPercent := false, afterUser := false }
    else none
  else if c = '@' then some { scan with colons := 0, hasPercent := false, afterUser := true }
  else if c = '%' then some { scan with hasPercent := true, afterUser := false }
  else if isAuthorityChar c then some { scan with afterUser := false }
  else none

/-- Is what has been seen an authority? -/
def AuthorityScan.isComplete (scan : AuthorityScan) : Bool :=
  scan.opened = scan.closed && scan.colons ≤ 1 && !scan.afterUser && !scan.hasPercent

/-- Does the character end an authority? -/
def endsAuthority (c : Char) : Bool :=
  c = '/' || c = '?' || c = '#'

/-- Is the text an authority, or empty? -/
def isAuthority (cs : List Char) : Bool :=
  match cs.foldlM AuthorityScan.step? {} with
  | some scan => scan.isComplete
  | none => false

/-! ## Path and query -/

/-- Is the text a path with an optional query? What stands behind a hash sign does not count. -/
def isPathAndQuery (cs : List Char) : Bool :=
  let visible := cs.takeWhile (· ≠ '#')
  let path := visible.takeWhile (· ≠ '?')
  let query := (visible.dropWhile (· ≠ '?')).drop 1
  path.all isPathChar && query.all isQueryChar

/-! ## Addresses -/

/-- The longest address, in bytes. -/
def maxLength : Nat := 65534

/-- Is the text an address? Without a scheme it must be an authority or a path alone. -/
def isAddress (address : String) : Bool :=
  let cs := address.toList
  if address.isEmpty ∨ maxLength < address.utf8ByteSize then false
  else if address = "*" then true
  else if cs.head? = some '/' then isPathAndQuery cs
  else
    match behindScheme? cs with
    | none => false
    | some (hasScheme, rest) =>
      let authority := rest.takeWhile fun c => !endsAuthority c
      let behind := rest.dropWhile fun c => !endsAuthority c
      isAuthority authority
        && if hasScheme then !authority.isEmpty && isPathAndQuery behind else behind.isEmpty

/-- Does the address ask for an encrypted connection? -/
def isEncrypted (address : String) : Bool :=
  "https://".toList.isPrefixOf address.toList

end LiquidityClient.Uri
