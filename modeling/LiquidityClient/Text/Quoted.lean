/-!
# Quoted text

Text as diagnostics show it : between two marks, with a backslash before the mark and before a
backslash, short forms for the common control characters, and the code of every other character that
does not show.
-/

namespace LiquidityClient.Quoted

/-- The ranges of the characters above the ASCII ones that control, format, separate or are for
private use. -/
def hiddenRanges : List (Nat × Nat) :=
  [(0x80, 0xa0), (0xad, 0xad), (0x600, 0x605), (0x61c, 0x61c), (0x6dd, 0x6dd), (0x70f, 0x70f),
    (0x890, 0x891), (0x8e2, 0x8e2), (0x1680, 0x1680), (0x180e, 0x180e), (0x2000, 0x200f),
    (0x2028, 0x202f), (0x205f, 0x2064), (0x2066, 0x206f), (0x3000, 0x3000), (0xe000, 0xf8ff),
    (0xfeff, 0xfeff), (0xfff9, 0xfffb), (0x110bd, 0x110bd), (0x110cd, 0x110cd), (0x13430, 0x13438),
    (0x1bca0, 0x1bca3), (0x1d173, 0x1d17a), (0xe0001, 0xe0001), (0xe0020, 0xe007f),
    (0xf0000, 0xffffd), (0x100000, 0x10fffd)]

/-- The ranges of the marks that join the character before them. -/
def joiningRanges : List (Nat × Nat) :=
  [(0x300, 0x36f), (0x483, 0x489), (0x1ab0, 0x1ace), (0x1dc0, 0x1dff), (0x20d0, 0x20f0),
    (0xfe00, 0xfe0f), (0xfe20, 0xfe2f), (0xe0100, 0xe01ef)]

/-- Does the character with this code show as itself? -/
def isShown (code : Nat) : Bool :=
  32 ≤ code && code != 127
    && (hiddenRanges ++ joiningRanges).all fun (first, last) => code < first || last < code

/-- A character between marks. -/
def escape (mark c : Char) : List Char :=
  let code := c.toNat
  if c = mark ∨ c = '\\' then ['\\', c]
  else if code = 0 then ['\\', '0']
  else if c = '\t' then ['\\', 't']
  else if c = '\n' then ['\\', 'n']
  else if c = '\r' then ['\\', 'r']
  else if isShown code then [c]
  else ['\\', 'u', '\x7b'] ++ Nat.toDigits 16 code ++ ['\x7d']

/-- Characters between two marks. -/
def between (mark : Char) (cs : List Char) : String :=
  String.ofList (mark :: cs.flatMap (escape mark) ++ [mark])

/-- A character in apostrophes. -/
def character (c : Char) : String :=
  between (Char.ofNat 39) [c]

/-- A text in quotation marks. -/
def text (content : String) : String :=
  between '"' content.toList

end LiquidityClient.Quoted
