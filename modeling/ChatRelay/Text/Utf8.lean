/-!
# Bytes and text

Chat lines travel as bytes that need not be UTF-8. Reading them as text never fails: each maximal
piece that cannot be part of a character becomes one U+FFFD.

- `utf8`: the bytes that write a text.
- `Decoder`: the text read so far, and the character whose remaining bytes are still to come.
- `decodeLossy`: the text of a byte string.
-/

namespace ChatRelay.Text

/-- The bytes that write `text` in UTF-8. -/
def utf8 (text : String) : List UInt8 := text.toList.flatMap String.utf8EncodeChar

/-- What stands for a piece that is not UTF-8. -/
def replacement : Char := '\uFFFD'

/-- A character of which some bytes are still to come. -/
structure Decoder.Unfinished where
  /-- How many bytes follow the next one. -/
  further : Nat
  /-- The bits read so far. -/
  value : Nat
  /-- The least next byte. -/
  low : UInt8
  /-- The greatest next byte. -/
  high : UInt8
  deriving DecidableEq, Repr

/-- A reader of bytes as text. -/
structure Decoder where
  /-- The text read so far. -/
  text : String := ""
  /-- The character being read, if the last byte did not end one. -/
  unfinished : Option Decoder.Unfinished := none

namespace Decoder

/-- Read the first byte of a character. The bounds on the second byte shut out overlong forms,
surrogates and numbers beyond the last code point. -/
def start (text : String) (b : UInt8) : Decoder :=
  if b < 0x80 then ⟨text.push (Char.ofNat b.toNat), none⟩
  else if b < 0xC2 then ⟨text.push replacement, none⟩
  else if b < 0xE0 then ⟨text, some ⟨0, b.toNat - 0xC0, 0x80, 0xBF⟩⟩
  else if b = 0xE0 then ⟨text, some ⟨1, 0, 0xA0, 0xBF⟩⟩
  else if b = 0xED then ⟨text, some ⟨1, 0xD, 0x80, 0x9F⟩⟩
  else if b < 0xF0 then ⟨text, some ⟨1, b.toNat - 0xE0, 0x80, 0xBF⟩⟩
  else if b = 0xF0 then ⟨text, some ⟨2, 0, 0x90, 0xBF⟩⟩
  else if b < 0xF4 then ⟨text, some ⟨2, b.toNat - 0xF0, 0x80, 0xBF⟩⟩
  else if b = 0xF4 then ⟨text, some ⟨2, 4, 0x80, 0x8F⟩⟩
  else ⟨text.push replacement, none⟩

/-- Read one byte. A byte that cannot continue the unfinished character ends it as a replacement
and starts anew. -/
def step (d : Decoder) (b : UInt8) : Decoder :=
  match d.unfinished with
  | none => start d.text b
  | some u =>
    if u.low ≤ b ∧ b ≤ u.high then
      let value := u.value * 64 + (b.toNat - 0x80)
      match u.further with
      | 0 => ⟨d.text.push (Char.ofNat value), none⟩
      | further + 1 => ⟨d.text, some ⟨further, value, 0x80, 0xBF⟩⟩
    else start (d.text.push replacement) b

/-- The text when no byte follows: an unfinished character is a replacement. -/
def finish (d : Decoder) : String :=
  match d.unfinished with
  | none => d.text
  | some _ => d.text.push replacement

end Decoder

/-- Read bytes as text, each maximal piece that is not UTF-8 as one U+FFFD. -/
def decodeLossy (bytes : List UInt8) : String := (bytes.foldl Decoder.step {}).finish

@[simp] theorem decodeLossy_nil : decodeLossy [] = "" := rfl

end ChatRelay.Text
