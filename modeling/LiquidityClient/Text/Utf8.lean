import LiquidityClient.Bytes

/-!
# Unicode text as bytes

`decode?` accepts exactly the UTF-8 forms of texts : `decode?_encode` reads back what `encode`
wrote, and `encode_of_decode?` says that nothing else is accepted. A text of ASCII characters has
one byte a character (`encode_ofList`).
-/

namespace LiquidityClient.Utf8

/-- The UTF-8 bytes of a text. -/
def encode (text : String) : Bytes :=
  text.toUTF8.data.toList

/-- The text with these UTF-8 bytes, if there is one. -/
def decode? (bytes : Bytes) : Option String :=
  String.fromUTF8? ⟨bytes.toArray⟩

theorem decode?_encode (text : String) : decode? (encode text) = some text := by
  have h : (⟨text.toByteArray.data⟩ : ByteArray).IsValidUTF8 := text.isValidUTF8
  simp [decode?, encode, String.fromUTF8?, String.fromUTF8, h]

theorem encode_of_decode? {bytes : Bytes} {text : String} (h : decode? bytes = some text) :
    encode text = bytes := by
  unfold decode? String.fromUTF8? at h
  split at h
  · obtain rfl := Option.some.inj h
    simp [encode, String.fromUTF8]
  · simp at h

/-- The bytes of a text are those of its characters. -/
theorem encode_eq_flatMap (text : String) :
    encode text = text.toList.flatMap String.utf8EncodeChar := by
  obtain ⟨chars, rfl⟩ : ∃ chars, text = String.ofList chars := ⟨_, String.ofList_toList.symm⟩
  simp [encode, String.toByteArray_ofList, List.utf8Encode]

theorem utf8EncodeChar_ascii {c : Char} (h : c.toNat < 128) :
    String.utf8EncodeChar c = [UInt8.ofNat c.toNat] := by
  have : c.val.toNat ≤ 127 := by have := h; simp at this ⊢; omega
  unfold String.utf8EncodeChar
  simp only [this, if_true]
  rfl

theorem encode_ofList {chars : List Char} (h : ∀ c ∈ chars, c.toNat < 128) :
    encode (String.ofList chars) = chars.map fun c => UInt8.ofNat c.toNat := by
  rw [encode_eq_flatMap, String.toList_ofList]
  induction chars with
  | nil => rfl
  | cons c rest ih =>
    simp [utf8EncodeChar_ascii (h c (by simp)), ih fun x hx => h x (by simp [hx])]

end LiquidityClient.Utf8
