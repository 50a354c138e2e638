/-!
# The curve secp256k1

Arithmetic on residues modulo the field prime, and the group of the curve `y² = x³ + 7`. Points are
added in Jacobian coordinates, where `(x, y, z)` stands for `(x / z², y / z³)` and `z = 0` for the
point at infinity, so that a multiple of a point takes one inversion only.
-/

namespace LiquidityClient.Secp256k1

/-- The prime of the coordinate field. -/
def fieldPrime : Nat :=
  0xfffffffffffffffffffffffffffffffffffffffffffffffffffffffefffffc2f

/-- The order of the group, a prime. -/
def order : Nat :=
  0xfffffffffffffffffffffffffffffffebaaedce6af48a03bbfd25e8cd0364141

/-- The power of a residue by the low `bits` bits of the exponent. -/
def powMod (modulus base exponent : Nat) : Nat → Nat
  | 0 => 1
  | bits + 1 =>
    let half := powMod modulus base (exponent / 2) bits
    let square := half * half % modulus
    if exponent % 2 = 1 then square * base % modulus else square

/-- The inverse of a residue modulo a prime of 256 bits, by its power with exponent `prime - 2`. -/
def inverseMod (prime a : Nat) : Nat :=
  powMod prime a (prime - 2) 256

namespace BaseField

/-- Sum of coordinates. -/
def add (a b : Nat) : Nat := (a + b) % fieldPrime

/-- Difference of coordinates. -/
def sub (a b : Nat) : Nat := (a + fieldPrime - b) % fieldPrime

/-- Product of coordinates. -/
def mul (a b : Nat) : Nat := a * b % fieldPrime

/-- Square of a coordinate. -/
def square (a : Nat) : Nat := a * a % fieldPrime

/-- A square root, if the argument is a square : the field prime is 3 modulo 4. -/
def sqrt? (a : Nat) : Option Nat :=
  let root := powMod fieldPrime a ((fieldPrime + 1) / 4) 256
  if square root = a then some root else none

end BaseField

/-- The right-hand side of the curve equation. -/
def curveRight (x : Nat) : Nat :=
  BaseField.add (BaseField.mul (BaseField.square x) x) 7

/-- A point of the plane, other than infinity. -/
structure Affine where
  x : Nat
  y : Nat
  deriving DecidableEq, Repr

/-- Do the coordinates satisfy the curve equation? -/
def Affine.onCurve (p : Affine) : Bool :=
  BaseField.square p.y = curveRight p.x

/-- A point in Jacobian coordinates. -/
structure Jacobian where
  x : Nat
  y : Nat
  z : Nat
  deriving DecidableEq, Repr

namespace Jacobian

open BaseField

/-- The point at infinity. -/
def infinity : Jacobian := ⟨1, 1, 0⟩

/-- A point of the plane. -/
def ofAffine (p : Affine) : Jacobian := ⟨p.x, p.y, 1⟩

/-- The point of the plane, if it is not at infinity. -/
def toAffine? (p : Jacobian) : Option Affine :=
  if p.z = 0 then none
  else
    let zInv := inverseMod fieldPrime p.z
    let zInv2 := square zInv
    some ⟨mul p.x zInv2, mul p.y (mul zInv2 zInv)⟩

/-- The double of a point. -/
def double (p : Jacobian) : Jacobian :=
  if p.z = 0 then infinity
  else
    let a := square p.x
    let b := square p.y
    let c := square b
    let d := mul 2 (sub (sub (square (add p.x b)) a) c)
    let e := mul 3 a
    let x := sub (square e) (mul 2 d)
    ⟨x, sub (mul e (sub d x)) (mul 8 c), mul 2 (mul p.y p.z)⟩

/-- The sum of two points. -/
def add (p q : Jacobian) : Jacobian :=
  if p.z = 0 then q
  else if q.z = 0 then p
  else
    let pz2 := square p.z
    let qz2 := square q.z
    let u1 := mul p.x qz2
    let u2 := mul q.x pz2
    let s1 := mul p.y (mul qz2 q.z)
    let s2 := mul q.y (mul pz2 p.z)
    let h := sub u2 u1
    let r := sub s2 s1
    if h = 0 then if r = 0 then double p else infinity
    else
      let h2 := square h
      let h3 := mul h2 h
      let v := mul u1 h2
      let x := sub (sub (square r) h3) (mul 2 v)
      ⟨x, sub (mul r (sub v x)) (mul s1 h3), mul (mul p.z q.z) h⟩

/-- The multiple of a point by the low `bits` bits of a scalar. -/
def scale (p : Jacobian) (scalar : Nat) : Nat → Jacobian
  | 0 => infinity
  | bits + 1 =>
    let twice := double (scale p (scalar / 2) bits)
    if scalar % 2 = 1 then add twice p else twice

end Jacobian

/-- The base point of the group. -/
def generator : Affine :=
  ⟨0x79be667ef9dcbbac55a06295ce870b07029bfcdb2dce28d959f2815b16f81798,
    0x483ada7726a3c4655da4fbfc0e1108a8fd17b448a68554199c47d08ffb10d4b8⟩

/-- The multiple of a point by a scalar below `2 ^ 256`, if it is not at infinity. -/
def Affine.scale? (p : Affine) (scalar : Nat) : Option Affine :=
  ((Jacobian.ofAffine p).scale scalar 256).toAffine?

end LiquidityClient.Secp256k1
