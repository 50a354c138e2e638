import LiquidityClient.Bytes

/-!
# Bech32 text

A human-readable part, a separator, values of five bits and a checksum of six of them. Version 0 of
a witness program takes the first checksum constant, later versions the second.
-/

namespace LiquidityClient.Bech32

/-- The characters of the values from 0 to 31. -/
def alphabet : List Char :=
  "qpzry9x8gf2tvdw0s3jn54khce6mua7l".toList

/-- The character of a value. -/
def digit (value : Nat) : Char :=
  alphabet.getD value 'q'

/-- The value of a character in lower case. -/
def value? (c : Char) : Option Nat :=
  alphabet.findIdx? (· = c)

/-- The checksum constant for a witness version. -/
def checksumConstant (version : Nat) : Nat :=
  if version = 0 then 1 else 0x2bc830a3

/-- The generators of the checksum. -/
def generators : List Nat :=
  [0x3b6a57b2, 0x26508e6d, 0x1ea119fa, 0x3d4233dd, 0x2a1462b3]

/-- The checksum state after one more value. -/
def step (state value : Nat) : Nat :=
  let top := state >>> 25
  let start := ((state &&& 0x1ffffff) <<< 5) ^^^ value
  (generators.zip (List.range 5)).foldl
    (fun acc (generator, i) => if top.testBit i then acc ^^^ generator else acc) start

/-- The checksum state over values. -/
def polymod (values : List Nat) : Nat :=
  values.foldl step 1

/-- The values of the human-readable part that go into the checksum. -/
def expand (label : List Char) : List Nat :=
  label.map (·.toNat / 32) ++ 0 :: label.map (·.toNat % 32)

/-- The checksum of values behind a human-readable part. -/
def checksum (constant : Nat) (label : List Char) (values : List Nat) : List Nat :=
  let state := polymod (expand label ++ values ++ [0, 0, 0, 0, 0, 0]) ^^^ constant
  (List.range 6).map fun i => (state >>> (5 * (5 - i))) % 32

/-- The low `width` bits of a number, most significant first. -/
def bitsOf (width n : Nat) : List Bool :=
  (List.range width).map fun i => n.testBit (width - 1 - i)

/-- The number with these bits, most significant first. -/
def ofBits (bits : List Bool) : Nat :=
  bits.foldl (fun n bit => 2 * n + bit.toNat) 0

/-- The full groups of `width` bits, and what is left over. -/
def groups (width : Nat) : Nat → List Bool → List Nat × List Bool
  | 0, bits => ([], bits)
  | fuel + 1, bits =>
    if bits.length < width ∨ width = 0 then ([], bits)
    else
      let (rest, left) := groups width fuel (bits.drop width)
      (ofBits (bits.take width) :: rest, left)

/-- The five-bit values of a byte string; the last is filled up with zero bits. -/
def valuesOfBytes (bytes : Bytes) : List Nat :=
  let bits := bytes.flatMap fun byte => bitsOf 8 byte.toNat
  let (values, left) := groups 5 bits.length bits
  if left.isEmpty then values
  else values ++ [ofBits (left ++ List.replicate (5 - left.length) false)]

/-- The byte string of five-bit values, if at most four zero bits are left over. -/
def bytesOfValues? (values : List Nat) : Option Bytes :=
  let bits := values.flatMap (bitsOf 5)
  let (bytes, left) := groups 8 bits.length bits
  if left.length ≤ 4 ∧ left.all (! ·) then some (bytes.map UInt8.ofNat) else none

/-- The text of a witness program. -/
def encodeProgram (label : String) (version : Nat) (program : Bytes) : String :=
  let chars := label.toList
  let values := version :: valuesOfBytes program
  let sum := checksum (checksumConstant version) chars values
  String.ofList (chars ++ '1' :: (values ++ sum).map digit)

/-- The characters before and after the last separator, if there is one. -/
def splitSeparator? (chars : List Char) : Option (List Char × List Char) :=
  let tail := chars.reverse.takeWhile (· ≠ '1')
  if tail.length < chars.length then
    some (chars.take (chars.length - tail.length - 1), tail.reverse)
  else none

/-- The witness program that a text of at most 90 characters spells, with its human-readable part in
lower case and its version. -/
def decodeProgram? (text : String) : Option (String × Nat × Bytes) :=
  let chars := text.toList
  let lower := chars.map Char.toLower
  if 90 < chars.length ∨ (chars.any Char.isUpper ∧ chars.any Char.isLower) then none
  else
    match splitSeparator? lower with
    | none => none
    | some (label, tail) =>
      if label.isEmpty ∨ label.any (fun c => c.toNat < 33 ∨ 126 < c.toNat) ∨
        tail.length < 7 then none
      else
        match tail.mapM value? with
        | none => none
        | some values =>
          match values.take (values.length - 6) with
          | [] => none
          | version :: payload =>
            if 16 < version ∨ polymod (expand label ++ values) ≠ checksumConstant version then none
            else
              match bytesOfValues? payload with
              | none => none
              | some program =>
                let n := program.length
                if n < 2 ∨ 40 < n ∨ (version = 0 ∧ n ≠ 20 ∧ n ≠ 32) then none
                else some (String.ofList label, version, program)

end LiquidityClient.Bech32
