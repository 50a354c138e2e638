import LiquidityClient.Secp256k1.Curve
import LiquidityClient.Hash.Sha256

/-!
# Keys on secp256k1

A secret key is a scalar from 1 to below the group order, written in 32 bytes; its public key is the
multiple of the base point. Public keys are read compressed, uncompressed and in the hybrid form,
whose first byte repeats the parity of the second coordinate, and written compressed or
uncompressed.
-/

namespace LiquidityClient

open Secp256k1

/-- A secret scalar. -/
structure SecretKey where
  scalar : Nat
  pos : 0 < scalar
  lt_order : scalar < order

/-- A public key, a point of the curve. -/
structure PublicKey where
  point : Affine
  deriving DecidableEq, Repr

namespace SecretKey

/-- The key with these 32 bytes, if the scalar is in range. -/
def ofBytes? (bytes : Bytes) : Option SecretKey :=
  let n := Bytes.toNatBE bytes
  if h : bytes.length = 32 ∧ 0 < n ∧ n < order then some ⟨n, h.2.1, h.2.2⟩ else none

/-- The scalar in 32 bytes. -/
def toBytes (key : SecretKey) : Bytes :=
  Bytes.ofNatBE 32 key.scalar

/-- The public key of a secret one. -/
def publicKey (key : SecretKey) : PublicKey :=
  ⟨(generator.scale? key.scalar).getD generator⟩

/-- A key is read back as it was written. -/
theorem ofBytes?_toBytes (key : SecretKey) : ofBytes? key.toBytes = some key := by
  have hvalue : Bytes.toNatBE key.toBytes = key.scalar :=
    Bytes.toNatBE_ofNatBE (Nat.lt_trans key.lt_order (by decide))
  have hlength : key.toBytes.length = 32 := Bytes.length_ofNatBE 32 key.scalar
  simp [ofBytes?, hvalue, hlength, key.pos, key.lt_order]

end SecretKey

namespace PublicKey

/-- The compressed form : the parity of the second coordinate and the first coordinate. -/
def compressed (key : PublicKey) : Bytes :=
  (if key.point.y % 2 = 1 then 3 else 2) :: Bytes.ofNatBE 32 key.point.x

/-- The uncompressed form : both coordinates. -/
def uncompressed (key : PublicKey) : Bytes :=
  4 :: Bytes.ofNatBE 32 key.point.x ++ Bytes.ofNatBE 32 key.point.y

/-- The point with this first coordinate and this parity of the second. -/
def decompress? (odd : Bool) (x : Nat) : Option PublicKey :=
  if x < fieldPrime then
    match BaseField.sqrt? (curveRight x) with
    | some y => some ⟨⟨x, if decide (y % 2 = 1) = odd then y else BaseField.sub 0 y⟩⟩
    | none => none
  else none

/-- The public key that a byte string spells in one of its forms. -/
def ofBytes? (bytes : Bytes) : Option PublicKey :=
  match bytes with
  | [] => none
  | form :: rest =>
    if rest.length = 32 then
      if form = 2 then decompress? false (Bytes.toNatBE rest)
      else if form = 3 then decompress? true (Bytes.toNatBE rest)
      else none
    else if rest.length = 64 then
      let p : Affine := ⟨Bytes.toNatBE (rest.take 32), Bytes.toNatBE (rest.drop 32)⟩
      let parity := p.y % 2
      if p.x < fieldPrime ∧ p.y < fieldPrime ∧ p.onCurve
          ∧ (form = 4 ∨ (form = 6 ∧ parity = 0) ∨ (form = 7 ∧ parity = 1)) then some ⟨p⟩
      else none
    else none

theorem length_compressed (key : PublicKey) : key.compressed.length = 33 := by
  simp [compressed, Bytes.length_ofNatBE]

end PublicKey

/-- The secret that two key pairs share : the hash of the compressed common point. -/
def sharedSecret (theirs : PublicKey) (ours : SecretKey) : Bytes :=
  Sha256.hash (PublicKey.compressed ⟨(theirs.point.scale? ours.scalar).getD theirs.point⟩)

end LiquidityClient
