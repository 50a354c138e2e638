import LiquidityClient.Hash.Sha256

/-!
# Base58 text with a checksum

A byte string behind which the first four bytes of its double hash stand, written in base 58; each
zero byte in front is written as a one.
-/

namespace LiquidityClient.Base58

/-- The characters of the digits from 0 to 57. -/
def alphabet : List Char :=
  "123456789ABCDEFGHJKLMNPQRSTUVWXYZabcdefghijkmnopqrstuvwxyz".toList

/-- The value of a character. -/
def value? (c : Char) : Option Nat :=
  alphabet.findIdx? (· = c)

/-- The bytes of a number without zeros in front. -/
def bytesOf (size n : Nat) : Bytes :=
  (Bytes.ofNatBE size n).dropWhile (· = 0)

/-- The byte string that a text spells. -/
def decode? (text : String) : Option Bytes :=
  let chars := text.toList
  match chars.mapM value? with
  | none => none
  | some values =>
    let zeros := (values.takeWhile (· = 0)).length
    let n := values.foldl (fun n value => 58 * n + value) 0
    some (Bytes.repeated zeros 0 ++ bytesOf chars.length n)

/-- The byte string that a text with a checksum spells. -/
def decodeChecked? (text : String) : Option Bytes :=
  match decode? text with
  | none => none
  | some bytes =>
    if bytes.length < 4 then none
    else
      let body := bytes.take (bytes.length - 4)
      if (Sha256.doubleHash body).take 4 = bytes.drop (bytes.length - 4) then some body else none

end LiquidityClient.Base58
