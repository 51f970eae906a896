import Mathlib.Data.Nat.Digits.Defs

/-!
# Numbers written as bytes

A program keeps a number that is too large for a register as a list of bytes, the least significant
one first.  A `Radix` says which digit a byte stands for; there are two, the bytes themselves and
pairs of decimal digits, one in each nibble.  `number` reads a list of bytes and `numeral` writes
one of a given length.  Reading undoes writing up to a power of the base, `number_numeral`, and
writing undoes reading on lists of digits, `numeral_number`.

`sum` and `difference` are what arithmetic on numerals of a given length amounts to, the digits that
remain and whether a carry or a borrow leaves the last one.
-/

namespace GameBoy

/-- A way to write the numbers below a base as single bytes. -/
structure Radix where
  base : Nat
  /-- The digit that a byte stands for. -/
  digit : UInt8 → Nat
  /-- The byte that stands for a digit. -/
  byte : Nat → UInt8
  base_pos : 0 < base
  digit_byte : ∀ d < base, digit (byte d) = d

namespace Radix

/-! ## The two radices -/

/-- Each byte is a digit. -/
def binary : Radix where
  base := 256
  digit := UInt8.toNat
  byte := UInt8.ofNat
  base_pos := by decide
  digit_byte _ h := UInt8.toNat_ofNat_of_lt' h

/-- The high nibble counts the tens, the low nibble the units. -/
def decimal : Radix where
  base := 100
  digit byte := 10 * (byte.toNat / 16) + byte.toNat % 16
  byte d := .ofNat (16 * (d / 10) + d % 10)
  base_pos := by decide
  digit_byte d h := by
    have hlt : 16 * (d / 10) + d % 10 < UInt8.size := by
      show _ < 256
      omega
    rw [UInt8.toNat_ofNat_of_lt' hlt]
    omega

/-- A byte that is the one way to write its digit. -/
def IsDigit (radix : Radix) (b : UInt8) : Prop :=
  radix.digit b < radix.base ∧ radix.byte (radix.digit b) = b

theorem isDigit_binary (b : UInt8) : binary.IsDigit b :=
  ⟨b.toNat_lt, UInt8.ofNat_toNat⟩

theorem isDigit_of_mem {bytes : List UInt8} : ∀ b ∈ bytes, binary.IsDigit b :=
  fun b _ => isDigit_binary b

/-- A byte of two decimal digits. -/
def IsPacked (b : UInt8) : Prop := b.toNat / 16 ≤ 9 ∧ b.toNat % 16 ≤ 9

instance : DecidablePred IsPacked := fun b =>
  inferInstanceAs (Decidable (b.toNat / 16 ≤ 9 ∧ b.toNat % 16 ≤ 9))

theorem isDigit_decimal {b : UInt8} : decimal.IsDigit b ↔ IsPacked b := by
  have hb := b.toNat_lt
  have hdigit : decimal.digit b = 10 * (b.toNat / 16) + b.toNat % 16 := rfl
  have hbyte : decimal.byte (decimal.digit b) =
      UInt8.ofNat (16 * (decimal.digit b / 10) + decimal.digit b % 10) := rfl
  constructor
  · rintro ⟨hlt, heq⟩
    have hlt' : decimal.digit b < 100 := hlt
    have htoNat : (decimal.byte (decimal.digit b)).toNat = b.toNat := congrArg UInt8.toNat heq
    rw [hbyte, UInt8.toNat_ofNat'] at htoNat
    constructor <;> omega
  · rintro ⟨htens, hunits⟩
    have hlt : decimal.digit b < 100 := by omega
    have heq : 16 * (decimal.digit b / 10) + decimal.digit b % 10 = b.toNat := by omega
    exact ⟨hlt, by rw [hbyte, heq, UInt8.ofNat_toNat]⟩

/-! ## Reading and writing -/

variable (radix : Radix)

/-- The number that a list of bytes stands for. -/
def number (bytes : List UInt8) : Nat := Nat.ofDigits radix.base (bytes.map radix.digit)

/-- The last digits of a number, as many as asked for. -/
def numeral : Nat → Nat → List UInt8
  | 0, _ => []
  | n + 1, value => radix.byte (value % radix.base) :: numeral n (value / radix.base)

@[simp] theorem number_nil : radix.number [] = 0 := rfl

@[simp] theorem number_cons (b : UInt8) (bytes : List UInt8) :
    radix.number (b :: bytes) = radix.digit b + radix.base * radix.number bytes :=
  Nat.ofDigits_cons

@[simp] theorem length_numeral (n value : Nat) : (radix.numeral n value).length = n := by
  induction n generalizing value with
  | zero => rfl
  | succ n ih => simp [numeral, ih]

/-- A numeral keeps the number up to a power of the base. -/
theorem number_numeral (n value : Nat) :
    radix.number (radix.numeral n value) = value % radix.base ^ n := by
  -- by induction on the number of digits, the least significant one first
  induction n generalizing value with
  | zero => simp [numeral, Nat.mod_one]
  | succ n ih =>
      have hdigit := radix.digit_byte (value % radix.base) (Nat.mod_lt value radix.base_pos)
      calc radix.number (radix.numeral (n + 1) value)
          = value % radix.base + radix.base * (value / radix.base % radix.base ^ n) := by
            rw [numeral, number_cons, hdigit, ih]
        _ = value % radix.base ^ (n + 1) := by rw [pow_succ', Nat.mod_mul]

variable {radix} {bytes : List UInt8}

theorem number_cons_mod {b : UInt8} (hb : radix.IsDigit b) :
    radix.number (b :: bytes) % radix.base = radix.digit b := by
  rw [number_cons, Nat.add_mul_mod_self_left, Nat.mod_eq_of_lt hb.1]

theorem number_cons_div {b : UInt8} (hb : radix.IsDigit b) :
    radix.number (b :: bytes) / radix.base = radix.number bytes := by
  rw [number_cons, Nat.add_mul_div_left _ _ radix.base_pos, Nat.div_eq_of_lt hb.1, zero_add]

theorem number_cons_mod_mul {b : UInt8} (hb : radix.IsDigit b) (m : Nat) :
    radix.number (b :: bytes) % (radix.base * m) =
      radix.digit b + radix.base * (radix.number bytes % m) := by
  rw [Nat.mod_mul, number_cons_mod hb, number_cons_div hb]

theorem number_lt (h : ∀ b ∈ bytes, radix.IsDigit b) :
    radix.number bytes < radix.base ^ bytes.length := by
  induction bytes with
  | nil => simp
  | cons b bytes ih =>
      obtain ⟨hb, hbytes⟩ := List.forall_mem_cons.mp h
      calc radix.number (b :: bytes)
          < radix.base + radix.base * radix.number bytes := by
            rw [number_cons]
            exact Nat.add_lt_add_right hb.1 _
        _ = radix.base * (radix.number bytes + 1) := by ring
        _ ≤ radix.base * radix.base ^ bytes.length := Nat.mul_le_mul_left _ (ih hbytes)
        _ = radix.base ^ (b :: bytes).length := by rw [List.length_cons, pow_succ']

/-- No other digits stand for the same number. -/
theorem numeral_number (h : ∀ b ∈ bytes, radix.IsDigit b) :
    radix.numeral bytes.length (radix.number bytes) = bytes := by
  induction bytes with
  | nil => rfl
  | cons b bytes ih =>
      obtain ⟨hb, hbytes⟩ := List.forall_mem_cons.mp h
      rw [List.length_cons, numeral, number_cons_mod hb, number_cons_div hb, hb.2, ih hbytes]

/-! ## Arithmetic on numerals of a given length -/

/-- The digits of a sum and whether it has more. -/
def sum (radix : Radix) (n a b : Nat) (carry : Bool) : List UInt8 × Bool :=
  (radix.numeral n ((a + b + carry.toNat) % radix.base ^ n),
    decide (radix.base ^ n ≤ a + b + carry.toNat))

/-- The digits of a difference, counted from the power above them if it is negative, and whether it
is. -/
def difference (radix : Radix) (n a b : Nat) (borrow : Bool) : List UInt8 × Bool :=
  (radix.numeral n (((a : Int) - b - borrow.toNat) % radix.base ^ n).toNat,
    decide (a < b + borrow.toNat))

end Radix

/-! ## Balances

A total that consists of a rest below a weight, and of a carry at this weight, leaves no choice for
either. -/

section Balance

variable {rest weight total : Nat} {carry : Bool}

theorem mod_of_balance (hlt : rest < weight) (h : rest + weight * carry.toNat = total) :
    total % weight = rest := by
  rw [← h, Nat.add_mul_mod_self_left, Nat.mod_eq_of_lt hlt]

theorem carry_of_balance (hlt : rest < weight) (h : rest + weight * carry.toNat = total) :
    decide (weight ≤ total) = carry := by
  rw [← h]
  cases carry <;> simp [hlt]

end Balance

end GameBoy
