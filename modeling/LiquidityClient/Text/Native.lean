import LiquidityClient.Text.Utf8

/-!
# Texts of the operating system

A name or a path is known to the operating system by its bytes. Most often these are the UTF-8 bytes
of a text, but they need not be; `NativeText.text?` gives the text if there is one. Where a path is
shown to a reader, the replacement character stands for what spells no character.
-/

namespace LiquidityClient

/-- A text as the operating system has it. -/
structure NativeText where
  bytes : Bytes
  deriving DecidableEq, Repr

namespace NativeText

/-- A text, which is always one of the operating system too. -/
def ofString (text : String) : NativeText :=
  ⟨Utf8.encode text⟩

/-- Texts stand for themselves where a path is asked for. -/
instance : CoeTail String NativeText := ⟨ofString⟩

/-- The text with these bytes, if there is one. -/
def text? (t : NativeText) : Option String :=
  Utf8.decode? t.bytes

@[simp] theorem text?_ofString (text : String) : (ofString text).text? = some text :=
  Utf8.decode?_encode text

theorem ofString_of_text? {t : NativeText} {text : String} (h : t.text? = some text) :
    ofString text = t := by
  rw [ofString, Utf8.encode_of_decode? h]

/-! ## Display -/

/-- What stands for bytes that spell no character. -/
def replacement : Char := Char.ofNat 0xFFFD

/-- The bounds of the bytes behind the first one of a character, if a character can start with
it. -/
def tail? (first : UInt8) : Option (List (UInt8 × UInt8)) :=
  if first < 0x80 then some []
  else if first < 0xC2 then none
  else if first < 0xE0 then some [(0x80, 0xBF)]
  else if first < 0xF0 then
    some [(if first = 0xE0 then 0xA0 else 0x80, if first = 0xED then 0x9F else 0xBF), (0x80, 0xBF)]
  else if first < 0xF5 then
    some [(if first = 0xF0 then 0x90 else 0x80, if first = 0xF4 then 0x8F else 0xBF), (0x80, 0xBF),
      (0x80, 0xBF)]
  else none

/-- The bytes of a character that is not complete, and the bounds of those that it waits for. -/
structure Started where
  bytes : Bytes := []
  awaited : List (UInt8 × UInt8) := []

/-- The characters of bytes that are complete. -/
def spelled (bytes : Bytes) : List Char :=
  ((Utf8.decode? bytes).map String.toList).getD [replacement]

/-- What the first byte of a character completes, and what it starts. -/
def Started.first (byte : UInt8) : List Char × Started :=
  match tail? byte with
  | none => ([replacement], {})
  | some [] => (spelled [byte], {})
  | some awaited => ([], ⟨[byte], awaited⟩)

/-- What the next byte completes, and what it leaves started. A byte that is not awaited breaks off
what was started. -/
def Started.next (started : Started) (byte : UInt8) : List Char × Started :=
  match started.awaited with
  | [] => first byte
  | (low, high) :: awaited =>
    if low ≤ byte ∧ byte ≤ high then
      if awaited.isEmpty then (spelled (started.bytes ++ [byte]), {})
      else ([], ⟨started.bytes ++ [byte], awaited⟩)
    else
      let (chars, started) := first byte
      (replacement :: chars, started)

/-- The characters of bytes behind some that are started. What breaks off is replaced as a whole. -/
def replaced (started : Started) : Bytes → List Char
  | [] => if started.bytes.isEmpty then [] else [replacement]
  | byte :: rest =>
    let (chars, started) := started.next byte
    chars ++ replaced started rest

/-- The text that a reader is shown. -/
def display (t : NativeText) : String :=
  match t.text? with
  | some text => text
  | none => String.ofList (replaced {} t.bytes)

/-- Where a text is asked for, a path is shown. -/
instance : CoeHead NativeText String := ⟨display⟩

@[simp] theorem display_ofString (text : String) : (ofString text).display = text := by
  rw [display, text?_ofString]

/-- Three bytes of a character of four are replaced as one, and a byte that starts none by
itself. -/
example : replaced {} [0x61, 0xF0, 0x9F, 0x92, 0xFF, 0x62] =
    ['a', replacement, replacement, 'b'] := by
  decide

end NativeText

end LiquidityClient
