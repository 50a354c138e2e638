import LiquidityClient.Text.Base64

/-!
# Certificates in text files

A certificate stands in Base64 between a line that begins it and a line that ends it. What stands
outside such blocks means nothing.
-/

namespace LiquidityClient.Pem

/-- The line that begins a certificate. -/
def beginLine : String := "-----BEGIN CERTIFICATE-----"

/-- The line that ends a certificate. -/
def endLine : String := "-----END CERTIFICATE-----"

/-- Does the character separate words? -/
def isBlank (c : Char) : Bool :=
  c.toNat ≤ 32

/-- The lines of a file, without blanks at their ends. -/
def lines (contents : Bytes) : List String :=
  let text := String.ofList (contents.map fun byte => Char.ofNat byte.toNat)
  (text.splitOn "\n").map fun line =>
    String.ofList (line.toList.reverse.dropWhile isBlank).reverse

/-- The contents of the blocks in lines, given the lines of the block that has begun, last line
first; there is none if a block is not ended or is no Base64. -/
def blocks? : Option (List String) → List String → Option (List Bytes)
  | none, [] => some []
  | some _, [] => none
  | none, line :: rest => blocks? (if line = beginLine then some [] else none) rest
  | some inside, line :: rest =>
    if line = endLine then do
      let contents ← Base64.decode? (String.join inside.reverse)
      return contents :: (← blocks? none rest)
    else blocks? (some (line :: inside)) rest

/-- Do the bytes begin like a certificate, a sequence whose first element is one? -/
def isCertificate : Bytes → Bool
  | 0x30 :: length :: rest =>
    let behind := if length.toNat < 128 then rest else rest.drop (length.toNat - 128)
    behind.head? = some 0x30
  | _ => false

/-- The certificates in a file, if each of its blocks holds one. -/
def certificates? (contents : Bytes) : Option (List Bytes) :=
  (blocks? none (lines contents)).filter fun found => found.all isCertificate

end LiquidityClient.Pem
