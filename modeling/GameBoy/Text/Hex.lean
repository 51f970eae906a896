/-!
# Fixed-width hexadecimal

Bytes and addresses are written in upper case with all their digits: a byte as two, a word as
four.
-/

namespace GameBoy.Hex

/-- The upper-case digit of a value below sixteen. -/
def digit (value : Nat) : Char :=
  if value < 10 then Char.ofNat (48 + value) else Char.ofNat (55 + value)

/-- The last `width` hexadecimal digits of `value`, most significant first. -/
def digits : (width : Nat) → (value : Nat) → List Char
  | 0, _ => []
  | width + 1, value => digits width (value / 16) ++ [digit (value % 16)]

theorem length_digits (width value : Nat) : (digits width value).length = width := by
  induction width generalizing value with
  | zero => rfl
  | succ width ih => simp [digits, ih]

def byte (value : UInt8) : String := String.ofList (digits 2 value.toNat)

def word (value : UInt16) : String := String.ofList (digits 4 value.toNat)

end GameBoy.Hex
