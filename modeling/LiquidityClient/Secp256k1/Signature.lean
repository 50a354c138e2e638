import LiquidityClient.Secp256k1.Key

/-!
# Signatures on secp256k1

Deterministic ECDSA over a digest of 32 bytes : the nonces come from the key and the digest through
HMAC-SHA256, and of the two valid signatures the one with the smaller second number is taken. A
signature is written in DER.
-/

namespace LiquidityClient

open Secp256k1

/-- A signature, as its two scalars. -/
structure Signature where
  r : Nat
  s : Nat
  deriving DecidableEq, Repr

namespace Signature

/-- The state from which nonces are drawn. -/
structure NonceState where
  key : Bytes
  value : Bytes

/-- The state that holds the secret key and the digest. -/
def NonceState.start (key : SecretKey) (digest : Bytes) : NonceState :=
  let seed := key.toBytes ++ digest
  let v := Bytes.repeated 32 1
  let k := Sha256.hmac (Bytes.repeated 32 0) (v ++ 0 :: seed)
  let v := Sha256.hmac k v
  let k := Sha256.hmac k (v ++ 1 :: seed)
  ⟨k, Sha256.hmac k v⟩

/-- The next nonce. -/
def NonceState.draw (state : NonceState) : Bytes :=
  Sha256.hmac state.key state.value

/-- The state after a nonce that was of no use. -/
def NonceState.retry (state : NonceState) : NonceState :=
  let v := state.draw
  let k := Sha256.hmac state.key (v ++ [0])
  ⟨k, Sha256.hmac k v⟩

/-- The signature of a digest with a given nonce; its second number is at most half the order. -/
def withNonce (key : SecretKey) (digest : Bytes) (nonce : Nat) : Signature :=
  let r := match generator.scale? nonce with
    | some p => p.x % order
    | none => 0
  let message := Bytes.toNatBE digest % order
  let s := inverseMod order nonce * ((message + r * key.scalar) % order) % order
  ⟨r, if s ≤ order / 2 then s else order - s⟩

/-- The first nonce in range whose signature has no zero; after `fuel` such nonces the last is
taken, which never happens in practice. -/
def search (key : SecretKey) (digest : Bytes) : Nat → NonceState → Signature
  | 0, state => withNonce key digest (Bytes.toNatBE state.draw)
  | fuel + 1, state =>
    let nonce := Bytes.toNatBE state.draw
    let signature := withNonce key digest nonce
    if 0 < nonce ∧ nonce < order ∧ signature.r ≠ 0 ∧ signature.s ≠ 0 then signature
    else search key digest fuel state.retry

/-- The signature of a digest under a secret key. -/
def sign (key : SecretKey) (digest : Bytes) : Signature :=
  search key digest 32 (.start key digest)

/-- Is this a signature of the digest under the public key? -/
def verify (key : PublicKey) (digest : Bytes) (signature : Signature) : Bool :=
  if signature.r = 0 ∨ order ≤ signature.r ∨ signature.s = 0 ∨ order ≤ signature.s then false
  else
    let w := inverseMod order signature.s
    let message := Bytes.toNatBE digest % order
    let p := (Jacobian.ofAffine generator).scale (message * w % order) 256
    let q := (Jacobian.ofAffine key.point).scale (signature.r * w % order) 256
    match (p.add q).toAffine? with
    | some point => point.x % order = signature.r
    | none => false

/-- The bytes of a number as DER writes a non-negative integer : no superfluous zero in front, but
one before a set top bit. -/
def derInteger (n : Nat) : Bytes :=
  let digits := (Bytes.ofNatBE 33 n).dropWhile (· = 0)
  let body := match digits with
    | [] => [0]
    | top :: _ => if 128 ≤ top.toNat then 0 :: digits else digits
  2 :: UInt8.ofNat body.length :: body

/-- The DER form of a signature. -/
def der (signature : Signature) : Bytes :=
  let body := derInteger signature.r ++ derInteger signature.s
  0x30 :: UInt8.ofNat body.length :: body

end Signature

end LiquidityClient
