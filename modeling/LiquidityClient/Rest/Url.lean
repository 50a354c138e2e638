import LiquidityClient.Text.Scan

/-!
# Addresses of web services

`Url.isUsable` tells whether a request can be sent to an address : it names one of the two schemes,
a host, and a port that is a number of 16 bits, if any.
-/

namespace LiquidityClient.Url

/-- Does the character end the part with the host? -/
def endsAuthority (c : Char) : Bool :=
  c = '/' || c = '\\' || c = '?' || c = '#'

/-- May the character not stand in the name of a host? -/
def isForbidden (c : Char) : Bool :=
  c.toNat ≤ 32 || c.toNat = 127 || " #/:<>?@[\\]^|%".toList.contains c

/-- The text without blanks around it and without line ends and tabulators. -/
def clean (cs : List Char) : List Char :=
  let isBlank (c : Char) : Bool := c.toNat ≤ 32
  let front := cs.dropWhile isBlank
  let inner := (front.reverse.dropWhile isBlank).reverse
  inner.filter fun c => c ≠ '\t' && c ≠ '\n' && c ≠ '\r'

/-- What follows the scheme and its colon. -/
def behindScheme? (cs : List Char) : Option (List Char) :=
  let scheme := (cs.takeWhile (· ≠ ':')).map Char.toLower
  if scheme = "http".toList ∨ scheme = "https".toList then
    match cs.dropWhile (· ≠ ':') with
    | _ :: rest => some rest
    | [] => none
  else none

/-- The host and the port, without the user. -/
def hostAndPort (cs : List Char) : List Char :=
  let authority := (cs.dropWhile fun c => c = '/' || c = '\\').takeWhile fun c => !endsAuthority c
  (authority.reverse.takeWhile (· ≠ '@')).reverse

/-- Is the text, with its colon, a port, or nothing? -/
def isPort : List Char → Bool
  | [] => true
  | ':' :: digits => digits.all (Scan.isDigit 10) && decide (Scan.value 10 digits < UInt16.size)
  | _ => false

/-- Is the text an address of four numbers, of which the last may stand for several? -/
def isNumericHost (labels : List (List Char)) : Bool :=
  match labels.reverse with
  | [] => false
  | last :: front =>
    labels.all (fun label => !label.isEmpty && label.all (Scan.isDigit 10))
      && front.all (fun label => decide (Scan.value 10 label < 256))
      && decide (front.length < 4 ∧ Scan.value 10 last < 1 <<< (8 * (4 - front.length)))

/-- The parts of a text between points. -/
def labels (cs : List Char) : List (List Char) :=
  (String.ofList cs).splitOn "." |>.map String.toList

/-- Is the text a name or an address of a host? -/
def isHost (cs : List Char) : Bool :=
  let parts := labels cs
  let parts := if 1 < parts.length ∧ parts.getLast? = some [] then parts.dropLast else parts
  !cs.isEmpty && !cs.any isForbidden
    && (!((parts.getLast?.getD []).all (Scan.isDigit 10) && (parts.getLast?.getD []) ≠ [])
      || isNumericHost parts)

/-- Is the text a host with or without a port? -/
def isHostAndPort : List Char → Bool
  | '[' :: rest =>
    let inside := rest.takeWhile (· ≠ ']')
    inside.contains ':' && inside.all (fun c => Scan.isDigit 16 c || c = ':' || c = '.')
      && match rest.dropWhile (· ≠ ']') with
        | _ :: port => isPort port
        | [] => false
  | cs => isHost (cs.takeWhile (· ≠ ':')) && isPort (cs.dropWhile (· ≠ ':'))

/-- Can a request be sent to the address? -/
def isUsable (address : String) : Bool :=
  match behindScheme? (clean address.toList) with
  | some rest => isHostAndPort (hostAndPort rest)
  | none => false

end LiquidityClient.Url
