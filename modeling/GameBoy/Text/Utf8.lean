/-!
# Lenient decoding of UTF-8

Bytes are read as UTF-8.  Where they do not form a character, the longest beginning of a
character, or a single byte if there is none, is replaced by U+FFFD.
-/

namespace GameBoy.Utf8

/-- An inclusive range of bytes. -/
structure Range where
  first : UInt8
  last : UInt8

def Range.contains (range : Range) (byte : UInt8) : Bool :=
  range.first ≤ byte && byte ≤ range.last

/-- The bytes that may continue a character wherever no narrower rule applies. -/
def continuation : Range := ⟨0x80, 0xBF⟩

/-- What the first byte of a character says: the bits that it contributes, and which bytes must
follow. -/
structure Lead where
  bits : Nat
  following : List Range

/-- The meaning of a first byte.  The narrower ranges keep out overlong forms, surrogates and
numbers beyond the last character. -/
def lead? (byte : UInt8) : Option Lead :=
  let value := byte.toNat
  if byte ≤ 0x7F then some ⟨value, []⟩
  else if byte < 0xC2 then none
  else if byte ≤ 0xDF then some ⟨value - 0xC0, [continuation]⟩
  else if byte = 0xE0 then some ⟨0, [⟨0xA0, 0xBF⟩, continuation]⟩
  else if byte = 0xED then some ⟨0x0D, [⟨0x80, 0x9F⟩, continuation]⟩
  else if byte ≤ 0xEF then some ⟨value - 0xE0, [continuation, continuation]⟩
  else if byte = 0xF0 then some ⟨0, [⟨0x90, 0xBF⟩, continuation, continuation]⟩
  else if byte ≤ 0xF3 then some ⟨value - 0xF0, [continuation, continuation, continuation]⟩
  else if byte = 0xF4 then some ⟨4, [⟨0x80, 0x8F⟩, continuation, continuation]⟩
  else none

def replacement : Char := '\ufffd'

/-- Reads the rest of a character.  Returns what it amounts to and the bytes that are left. -/
def continueWith (bits : Nat) : List Range → List UInt8 → Char × List UInt8
  | [], rest => (Char.ofNat bits, rest)
  | _ :: _, [] => (replacement, [])
  | range :: ranges, byte :: rest =>
    if range.contains byte then continueWith (bits * 64 + byte.toNat % 64) ranges rest
    else (replacement, byte :: rest)

theorem length_continueWith (bits : Nat) (ranges : List Range) (bytes : List UInt8) :
    (continueWith bits ranges bytes).2.length ≤ bytes.length := by
  induction ranges generalizing bits bytes with
  | nil => exact Nat.le_refl _
  | cons range ranges ih =>
    cases bytes with
    | nil => exact Nat.le_refl _
    | cons byte rest =>
      unfold continueWith
      split
      · exact Nat.le_succ_of_le (ih _ rest)
      · exact Nat.le_refl _

/-- Appends the characters of a list of bytes to a text. -/
def appendTo (text : String) : List UInt8 → String
  | [] => text
  | byte :: rest =>
    match lead? byte with
    | none => appendTo (text.push replacement) rest
    | some ⟨bits, following⟩ =>
      let read := continueWith bits following rest
      appendTo (text.push read.1) read.2
termination_by bytes => bytes.length
decreasing_by
  · exact Nat.lt_succ_self _
  · exact Nat.lt_succ_of_le (length_continueWith _ _ _)

/-- The text of a list of bytes. -/
def decode (bytes : List UInt8) : String := appendTo "" bytes

end GameBoy.Utf8
