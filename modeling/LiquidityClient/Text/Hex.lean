import LiquidityClient.Text.Quoted
import LiquidityClient.Text.Utf8

/-!
# Hexadecimal text

Two digits a byte, written in lower case and read in either case. `decode_encode` : what is written
reads back. A text of odd length is refused before any of its characters is looked at, and the
first bad character is reported with its byte position.
-/

namespace LiquidityClient

/-- Why a text is not the hexadecimal form of a byte string. -/
inductive HexError where
  /-- The text has an odd number of bytes. -/
  | oddLength
  /-- The byte at this position is no digit. -/
  | invalidCharacter (byte : UInt8) (position : Nat)
  deriving Repr, DecidableEq

namespace Hex

/-- The digit of a half byte. -/
def digit (n : Nat) : Char :=
  if n < 10 then Char.ofNat (48 + n) else Char.ofNat (87 + n)

/-- The value of the character with this code, if it is a digit of either case. -/
def value? (code : UInt8) : Option Nat :=
  let n := code.toNat
  if 48 ≤ n ∧ n ≤ 57 then some (n - 48)
  else if 97 ≤ n ∧ n ≤ 102 then some (n - 87)
  else if 65 ≤ n ∧ n ≤ 70 then some (n - 55)
  else none

/-- The two digits of a byte, high half first. -/
def pair (byte : UInt8) : List Char :=
  [digit (byte.toNat / 16), digit (byte.toNat % 16)]

/-- The text of a byte string, in lower case. -/
def encode (bytes : Bytes) : String :=
  String.ofList (bytes.flatMap pair)

/-- The value of the digit at `position`, or the error that names it. -/
def valueAt (position : Nat) (code : UInt8) : Except HexError Nat :=
  match value? code with
  | some n => .ok n
  | none => .error (.invalidCharacter code position)

/-- The bytes of pairs of digits, the first of which stands at `position`. -/
def decodeFrom (position : Nat) : Bytes → Except HexError Bytes
  | [] => .ok []
  | [_] => .error .oddLength
  | high :: low :: rest => do
    let h ← valueAt position high
    let l ← valueAt (position + 1) low
    let tail ← decodeFrom (position + 2) rest
    return UInt8.ofNat (16 * h + l) :: tail

/-- The byte string of a text. -/
def decode (text : String) : Except HexError Bytes :=
  let codes := Utf8.encode text
  if codes.length % 2 = 1 then .error .oddLength else decodeFrom 0 codes

theorem value?_digit {n : Nat} (h : n < 16) : value? (UInt8.ofNat (digit n).toNat) = some n := by
  have : ∀ n : Fin 16, value? (UInt8.ofNat (digit n).toNat) = some n.val := by decide
  exact this ⟨n, h⟩

theorem digit_lt {n : Nat} (h : n < 16) : (digit n).toNat < 128 := by
  have : ∀ n : Fin 16, (digit n).toNat < 128 := by decide
  exact this ⟨n, h⟩

theorem length_flatMap_pair (bytes : Bytes) : (bytes.flatMap pair).length = 2 * bytes.length := by
  induction bytes with
  | nil => rfl
  | cons byte rest ih => simp [pair, ih]; omega

theorem decodeFrom_digits (bytes : Bytes) (position : Nat) :
    decodeFrom position ((bytes.flatMap pair).map fun c => UInt8.ofNat c.toNat) = .ok bytes := by
  induction bytes generalizing position with
  | nil => rfl
  | cons byte rest ih =>
    have hbyte := byte.toNat_lt
    have hhigh := value?_digit (n := byte.toNat / 16) (by omega)
    have hlow := value?_digit (n := byte.toNat % 16) (by omega)
    have hsum : 16 * (byte.toNat / 16) + byte.toNat % 16 = byte.toNat := by omega
    simp [pair, decodeFrom, valueAt, hhigh, hlow, ih, hsum, bind, Except.bind, pure, Except.pure]

/-- What is written reads back. -/
theorem decode_encode (bytes : Bytes) : decode (encode bytes) = .ok bytes := by
  have hascii : ∀ c ∈ bytes.flatMap pair, c.toNat < 128 := by
    intro c hc
    obtain ⟨byte, -, hc⟩ := List.mem_flatMap.mp hc
    have hbyte := byte.toNat_lt
    simp only [pair, List.mem_cons, List.not_mem_nil, or_false] at hc
    rcases hc with rfl | rfl <;> exact digit_lt (by omega)
  simp only [decode, encode, Utf8.encode_ofList hascii, List.length_map, length_flatMap_pair]
  rw [if_neg (by omega)]
  exact decodeFrom_digits bytes 0

/-- Is the text the hexadecimal form of some byte string? -/
def isHex (text : String) : Bool :=
  match decode text with
  | .ok _ => true
  | .error _ => false

theorem isHex_eq_true_iff {text : String} :
    isHex text = true ↔ ∃ bytes, decode text = .ok bytes := by
  unfold isHex
  cases decode text <;> simp

end Hex

namespace HexError

/-- The text of the error. -/
def message : HexError → String
  | .oddLength => "Odd number of digits"
  | .invalidCharacter byte position =>
    "Invalid character " ++ Quoted.character (Char.ofNat byte.toNat) ++ " at position "
      ++ toString position

end HexError

end LiquidityClient
