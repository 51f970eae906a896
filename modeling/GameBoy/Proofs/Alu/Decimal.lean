import GameBoy.Proofs.Alu.Binary

/-!
# Decimal arithmetic of any length

An addition of packed decimal bytes leaves a value that need not be packed, and flags that belong to
a binary sum.  The decimal adjustment has to find out which of the two decimal digits carry: a
nibble that went past fifteen has left its mark in a flag, and one between ten and fifteen shows in
the value, `units_add` and `tens_add`.  After a subtraction the flags alone say which digits have
borrowed.

Either way a correction of six for each such nibble gives the packed byte, `value_adjusted_add` and
`value_adjusted_sub`, and the carry that it takes to go on with the next byte.  So numbers of any
length are added and subtracted byte by byte, by the operations themselves or by a program that
executes them in the accumulator: `decimal_arithmetic`.
-/

namespace GameBoy

open Radix (decimal IsPacked isDigit_decimal)

namespace Alu

/-! ## The adjustment -/

theorem toNat_correction (units tens : Bool) :
    ((if units then 0x06 else 0) + (if tens then 0x60 else 0) : UInt8).toNat =
      6 * units.toNat + 96 * tens.toNat := by
  cases units <;> cases tens <;> rfl

theorem toNat_daa_of_added (a : UInt8) (flags : Flags) (h : flags.n = false) :
    (daa a flags).value.toNat =
      (a.toNat + (6 * (flags.h || decide (a.toNat % 16 > 0x09)).toNat +
        96 * (flags.c || decide (a > 0x99)).toNat)) % 256 := by
  simp only [daa, h, Bool.not_false, Bool.true_and, Bool.false_eq_true, if_false]
  rw [UInt8.toNat_add, toNat_correction]

theorem toNat_daa_of_subtracted (a : UInt8) (flags : Flags) (h : flags.n = true) :
    (daa a flags).value.toNat =
      (256 - (6 * flags.h.toNat + 96 * flags.c.toNat) + a.toNat) % 256 := by
  simp only [daa, h, Bool.not_true, Bool.false_and, Bool.or_false, if_true]
  rw [UInt8.toNat_sub, toNat_correction]

/-! ## Digits that carry and borrow -/

/-- A sum of two digits and a carry carries once at most. -/
theorem toNat_carries {m x : Nat} (h : x ≤ 2 * m + 1) : (decide (m < x)).toNat = x / (m + 1) := by
  rcases Nat.lt_or_ge m x with hover | hfits
  · have hdiv : x / (m + 1) = 1 := Nat.div_eq_of_lt_le (by omega) (by omega)
    simp only [hover, decide_true, Bool.toNat_true, hdiv]
  · have hdiv : x / (m + 1) = 0 := Nat.div_eq_of_lt (by omega)
    simp only [Nat.not_lt.mpr hfits, decide_false, Bool.toNat_false, hdiv]

/-- A difference borrows unless it reaches the next place with one of that place added. -/
theorem toNat_borrows {m x y : Nat} (hx : x ≤ m) (hy : y ≤ m + 1) :
    (decide (x < y)).toNat = 1 - (m + 1 + x - y) / (m + 1) := by
  -- at most one is borrowed, so the quotient tells the two cases apart
  rcases Nat.lt_or_ge x y with hless | henough
  · have hdiv : (m + 1 + x - y) / (m + 1) = 0 := Nat.div_eq_of_lt (by omega)
    simp only [hless, decide_true, Bool.toNat_true, hdiv]
  · have hdiv : (m + 1 + x - y) / (m + 1) = 1 := Nat.div_eq_of_lt_le (by omega) (by omega)
    simp only [Nat.not_lt.mpr henough, decide_false, Bool.toNat_false, hdiv]

/-- Six for each decimal carry make a sum of nibbles one of decimal digits. -/
theorem corrected_sum {tens units total sum carries : Nat} (htotal : total = 10 * tens + units)
    (hsum : sum + 256 * carries = 16 * tens + units) :
    (sum + (6 * (units / 10) + 96 * (total / 100))) % 256 =
      16 * (total / 10 % 10) + total % 10 := by
  have hlt : 16 * (total / 10 % 10) + total % 10 < 256 := by omega
  -- six for each ten among the units and 96 for each hundred: the nibbles then hold the digits
  have hcorrected : sum + (6 * (units / 10) + 96 * (total / 100)) + 256 * carries =
      16 * (total / 10 % 10) + total % 10 + 256 * (total / 100) := by omega
  calc (sum + (6 * (units / 10) + 96 * (total / 100))) % 256
      = (sum + (6 * (units / 10) + 96 * (total / 100)) + 256 * carries) % 256 :=
        (Nat.add_mul_mod_self_left _ _ _).symm
    _ = 16 * (total / 10 % 10) + total % 10 := by
        rw [hcorrected, Nat.add_mul_mod_self_left, Nat.mod_eq_of_lt hlt]

/-- Likewise for a difference, with both digits and the tens of the total raised by ten. -/
theorem corrected_difference {tens units total difference : Nat}
    (htotal : total + 10 = 10 * tens + units) (hunits : units < 20) (htens : total < 200)
    (hdifference : difference + 170 = 16 * tens + units + 256 * (1 - total / 100)) :
    (256 - (6 * (1 - units / 10) + 96 * (1 - total / 100)) + difference) % 256 =
      16 * (total / 10 % 10) + total % 10 := by
  have hlt : 16 * (total / 10 % 10) + total % 10 < 256 := by omega
  -- the correction is taken away in a byte, so it comes off 256, which drops out again
  have hcorrected : 256 - (6 * (1 - units / 10) + 96 * (1 - total / 100)) + difference =
      16 * (total / 10 % 10) + total % 10 + 256 := by omega
  rw [hcorrected, Nat.add_mod_right, Nat.mod_eq_of_lt hlt]

/-! ## One byte -/

/-- A byte operation with the adjustment after it. -/
def adjusted (combine : UInt8 → UInt8 → Bool → Result) (pair : UInt8 × UInt8) (carry : Bool) :
    Result :=
  let result := combine pair.1 pair.2 carry
  daa result.value result.flags

theorem digit_decimal (b : UInt8) : decimal.digit b = 10 * (b.toNat / 16) + b.toNat % 16 := rfl

theorem digit_le {b : UInt8} (h : IsPacked b) : decimal.digit b ≤ 99 :=
  Nat.le_of_lt_succ (isDigit_decimal.mpr h).1

theorem isPacked_of_digits {value : UInt8} {total : Nat}
    (h : value.toNat = 16 * (total / 10 % 10) + total % 10) :
    IsPacked value ∧ decimal.digit value = total % 100 := by
  rw [IsPacked, digit_decimal, h]
  omega

section Byte

variable {a b : UInt8} (ha : IsPacked a) (hb : IsPacked b) (carry : Bool)

include ha hb

/-- The units carry where the adjustment finds a half carry or a low nibble above nine. -/
theorem units_add :
    ((add a b carry).flags.h || decide ((add a b carry).value.toNat % 16 > 0x09)) =
      decide (9 < a.toNat % 16 + b.toNat % 16 + carry.toNat) := by
  obtain ⟨-, haunits⟩ := ha
  obtain ⟨-, hbunits⟩ := hb
  have hbalance := add_balance a b carry
  have hcarry := carry.toNat_le
  have hhalf : (add a b carry).flags.h =
      decide (15 < a.toNat % 16 + b.toNat % 16 + carry.toNat) := rfl
  -- a sum of units above 15 has carried, and one of 10 to 15 is still in the nibble
  rw [Bool.eq_iff_iff, hhalf]
  simp only [Bool.or_eq_true, decide_eq_true_eq]
  omega

/-- The tens carry where the adjustment finds a carry or a value above ninety-nine. -/
theorem tens_add :
    ((add a b carry).flags.c || decide ((add a b carry).value > 0x99)) =
      decide (99 < decimal.digit a + decimal.digit b + carry.toNat) := by
  obtain ⟨hatens, haunits⟩ := ha
  obtain ⟨hbtens, hbunits⟩ := hb
  have hbalance := add_balance a b carry
  have hcarry := carry.toNat_le
  have hvalue : (add a b carry).value > 0x99 ↔ 0x99 < (add a b carry).value.toNat :=
    UInt8.lt_iff_toNat_lt
  rw [Bool.eq_iff_iff, digit_decimal, digit_decimal]
  simp only [Bool.or_eq_true, decide_eq_true_eq, hvalue]
  -- with a carry the sum is past 255, hence past 99; without it the byte is the sum
  cases hover : (add a b carry).flags.c with
  | false =>
      simp only [hover, Bool.toNat_false] at hbalance
      simp only [Bool.false_eq_true, false_or]
      omega
  | true =>
      simp only [hover, Bool.toNat_true] at hbalance
      simp only [true_or, true_iff]
      omega

/-- The adjusted sum has the last two decimal digits and carries the rest. -/
theorem value_adjusted_add {total : Nat}
    (htotal : decimal.digit a + decimal.digit b + carry.toNat = total) :
    (adjusted add (a, b) carry).value.toNat = 16 * (total / 10 % 10) + total % 10 ∧
      (adjusted add (a, b) carry).flags.c.toNat = total / 100 := by
  have hunits := units_add ha hb carry
  have htens := tens_add ha hb carry
  rw [htotal] at htens
  rw [digit_decimal, digit_decimal] at htotal
  obtain ⟨hatens, haunits⟩ := ha
  obtain ⟨hbtens, hbunits⟩ := hb
  have hcarry := carry.toNat_le
  -- the carry out of the byte goes with the sum, so that the nibbles add up without wrapping
  have hcarries : (add a b carry).value.toNat + 256 * (add a b carry).flags.c.toNat =
      16 * (a.toNat / 16 + b.toNat / 16) + (a.toNat % 16 + b.toNat % 16 + carry.toNat) := by
    rw [add_balance]
    omega
  constructor
  · -- the flags say which of the two corrections are due, and those make the digits
    calc (adjusted add (a, b) carry).value.toNat
        = ((add a b carry).value.toNat + (6 * ((a.toNat % 16 + b.toNat % 16 + carry.toNat) / 10) +
            96 * (total / 100))) % 256 := by
          rw [← toNat_carries (m := 9) (by omega), ← toNat_carries (m := 99) (by omega), ← hunits,
            ← htens]
          exact toNat_daa_of_added (add a b carry).value (add a b carry).flags rfl
      _ = 16 * (total / 10 % 10) + total % 10 := corrected_sum (by omega) hcarries
  · calc (adjusted add (a, b) carry).flags.c.toNat
        = (decide (99 < total)).toNat := congrArg Bool.toNat htens
      _ = total / 100 := toNat_carries (m := 99) (by omega)

/-- Packed bytes compare like what they stand for. -/
theorem tens_sub :
    (sub a b carry).flags.c = decide (decimal.digit a < decimal.digit b + carry.toNat) := by
  obtain ⟨hatens, haunits⟩ := ha
  obtain ⟨hbtens, hbunits⟩ := hb
  have hcarry := carry.toNat_le
  have hborrow : (sub a b carry).flags.c = decide (a.toNat < b.toNat + carry.toNat) := rfl
  rw [hborrow, digit_decimal, digit_decimal, decide_eq_decide]
  omega

/-- The adjusted difference has the last two decimal digits of what lies a hundred above it, and
borrows if it takes the hundred. -/
theorem value_adjusted_sub {total : Nat}
    (htotal : 100 + decimal.digit a - (decimal.digit b + carry.toNat) = total) :
    (adjusted sub (a, b) carry).value.toNat = 16 * (total / 10 % 10) + total % 10 ∧
      (adjusted sub (a, b) carry).flags.c.toNat = 1 - total / 100 := by
  -- both digits are packed, so comparing the bytes is comparing the digits
  have hborrow : (sub a b carry).flags.c.toNat = 1 - total / 100 := by
    rw [tens_sub ha hb, ← htotal]
    exact toNat_borrows (m := 99) (digit_le ha) (Nat.add_le_add (digit_le hb) carry.toNat_le)
  rw [digit_decimal, digit_decimal] at htotal
  obtain ⟨hatens, haunits⟩ := ha
  obtain ⟨hbtens, hbunits⟩ := hb
  have hcarry := carry.toNat_le
  have hhalf : (sub a b carry).flags.h.toNat =
      1 - (10 + a.toNat % 16 - (b.toNat % 16 + carry.toNat)) / 10 :=
    toNat_borrows (m := 9) (by omega) (by omega)
  -- ten and a hundred are lent in advance, which keeps every difference a natural number
  have hborrows : (sub a b carry).value.toNat + 170 =
      16 * (10 + a.toNat / 16 - b.toNat / 16) +
        (10 + a.toNat % 16 - (b.toNat % 16 + carry.toNat)) + 256 * (1 - total / 100) := by
    have hbalance := sub_balance a b carry
    rw [hborrow] at hbalance
    omega
  constructor
  · -- what was lent in vain is what the correction takes back
    calc (adjusted sub (a, b) carry).value.toNat
        = (256 - (6 * (1 - (10 + a.toNat % 16 - (b.toNat % 16 + carry.toNat)) / 10) +
            96 * (1 - total / 100)) + (sub a b carry).value.toNat) % 256 := by
          rw [← hborrow, ← hhalf]
          exact toNat_daa_of_subtracted (sub a b carry).value (sub a b carry).flags rfl
      _ = 16 * (total / 10 % 10) + total % 10 :=
          corrected_difference (by omega) (by omega) (by omega) hborrows
  · calc (adjusted sub (a, b) carry).flags.c.toNat
        = (sub a b carry).flags.c.toNat := by simp [adjusted, daa, sub]
      _ = 1 - total / 100 := hborrow

end Byte

theorem computes_adjusted_add : decimal.Computes 1 (carried (adjusted add)) where
  isDigit := by
    intro carry a b ha hb
    rw [isDigit_decimal] at ha hb
    exact isDigit_decimal.mpr (isPacked_of_digits (value_adjusted_add ha hb carry rfl).1).1
  balance := by
    intro carry a b ha hb
    rw [isDigit_decimal] at ha hb
    obtain ⟨hvalue, hcarry⟩ := value_adjusted_add ha hb carry rfl
    have hdigit := (isPacked_of_digits hvalue).2
    show (decimal.digit (adjusted add (a, b) carry).value : Int) =
      decimal.digit a + 1 * (decimal.digit b + carry.toNat) -
        1 * 100 * (adjusted add (a, b) carry).flags.c.toNat
    omega

theorem computes_adjusted_sub : decimal.Computes (-1) (carried (adjusted sub)) where
  isDigit := by
    intro borrow a b ha hb
    rw [isDigit_decimal] at ha hb
    exact isDigit_decimal.mpr (isPacked_of_digits (value_adjusted_sub ha hb borrow rfl).1).1
  balance := by
    intro borrow a b ha hb
    rw [isDigit_decimal] at ha hb
    obtain ⟨hvalue, hborrow⟩ := value_adjusted_sub ha hb borrow rfl
    have hdigit := (isPacked_of_digits hvalue).2
    have hadigit := digit_le ha
    have hbdigit := digit_le hb
    have hle := borrow.toNat_le
    show (decimal.digit (adjusted sub (a, b) borrow).value : Int) =
      decimal.digit a + -1 * (decimal.digit b + borrow.toNat) -
        -1 * 100 * (adjusted sub (a, b) borrow).flags.c.toNat
    omega

end Alu

/-! ## Any number of bytes -/

namespace Cpu

open Alu

/-- Loads the accumulator and another register with a byte each. -/
def loadPair (cpu : Cpu) (r : Register) (pair : UInt8 × UInt8) : Cpu :=
  (cpu.setRegister pair.2 r).setRegister pair.1 .a

/-- Loads two bytes, executes an operation on them and the adjustment, and gives what the
accumulator holds then. -/
def computePacked (memory : Memory) (op : AluOp) (r : Register) (cpu : Cpu) (pair : UInt8 × UInt8) :
    UInt8 × Cpu :=
  let combined := ((cpu.loadPair r pair).execute memory (.alu op (.register r))).cpu
  let adjusted := (combined.execute memory .daa).cpu
  (adjusted.a, adjusted)

section Step

variable (cpu : Cpu) (memory : Memory) {r : Register} {pair : UInt8 × UInt8}

theorem flags_loadPair : (cpu.loadPair r pair).flags = cpu.flags := by
  cases r <;> rfl

/-- The second byte survives unless it goes to the accumulator too. -/
theorem register_loadPair (h : r = .a → pair.1 = pair.2) :
    (cpu.loadPair r pair).register r = pair.2 := by
  rw [loadPair, register_setRegister, register_setRegister, if_pos rfl]
  split
  · rename_i ha
    exact h ha.symm
  · rfl

theorem computePacked_eq {op : AluOp} {combine : UInt8 → UInt8 → Bool → Result}
    (hop : op.Combines combine) (h : r = .a → pair.1 = pair.2) :
    carried (adjusted combine) cpu.flags.c pair =
      ((cpu.computePacked memory op r pair).1, (cpu.computePacked memory op r pair).2.flags.c) := by
  -- loading the pair leaves the flags, and with them the carry of the step before
  have hcombined : ((cpu.loadPair r pair).execute memory (.alu op (.register r))).cpu =
      let result := combine pair.1 pair.2 cpu.flags.c
      { cpu.loadPair r pair with a := result.value, flags := result.flags } := by
    calc ((cpu.loadPair r pair).execute memory (.alu op (.register r))).cpu
        = (cpu.loadPair r pair).alu op pair.2 :=
          congrArg ((cpu.loadPair r pair).alu op) (cpu.register_loadPair h)
      _ = _ := by
          rw [hop, cpu.flags_loadPair]
          rfl
  rw [computePacked, hcombined]
  rfl

end Step

/-- **Decimal arithmetic of any length.** Additions of packed bytes, each with its adjustment and
with the carry that the one before left, give the packed bytes of the sum of two numbers and carry
what exceeds them; subtractions do the same for the difference.  A program that executes the
operation and the adjustment in the accumulator gets the same bytes and the same carry, whatever
register it takes the second number from. -/
theorem decimal_arithmetic (as bs : List UInt8) (carry : Bool) (hlength : as.length = bs.length)
    (ha : ∀ a ∈ as, IsPacked a) (hb : ∀ b ∈ bs, IsPacked b) :
    let n := as.length
    let a := decimal.number as
    let b := decimal.number bs
    ripple (carried (adjusted add)) carry (as.zip bs) = decimal.sum n a b carry ∧
      ripple (carried (adjusted sub)) carry (as.zip bs) = decimal.difference n a b carry ∧
      ∀ (cpu : Cpu) (memory : Memory) (r : Register), cpu.flags.c = carry → (r = .a → as = bs) →
        let added := ripple (computePacked memory .adc r) cpu (as.zip bs)
        let subtracted := ripple (computePacked memory .sbc r) cpu (as.zip bs)
        (added.1, added.2.flags.c) = decimal.sum n a b carry ∧
          (subtracted.1, subtracted.2.flags.c) = decimal.difference n a b carry := by
  have hadigit (a : UInt8) (h : a ∈ as) : decimal.IsDigit a := isDigit_decimal.mpr (ha a h)
  have hbdigit (b : UInt8) (h : b ∈ bs) : decimal.IsDigit b := isDigit_decimal.mpr (hb b h)
  have hsum := computes_adjusted_add.ripple_eq_sum hlength hadigit hbdigit carry
  have hdifference := computes_adjusted_sub.ripple_eq_difference hlength hadigit hbdigit carry
  refine ⟨hsum, hdifference, ?_⟩
  rintro cpu memory r rfl hr
  -- in A both operands are one register, which can hold them only if they are the same
  have hsame (pair : UInt8 × UInt8) (hpair : pair ∈ as.zip bs) (hra : r = .a) :
      pair.1 = pair.2 := by
    obtain ⟨i, hi, rfl⟩ := List.getElem_of_mem hpair
    simp [hr hra]
  constructor
  · -- at every step the carry flag of the processor is the carry of the chain
    exact (ripple_view (·.flags.c) (fun cpu pair hpair =>
      cpu.computePacked_eq memory AluOp.combines_adc (hsame pair hpair)) cpu).symm.trans hsum
  · exact (ripple_view (·.flags.c) (fun cpu pair hpair =>
      cpu.computePacked_eq memory AluOp.combines_sbc (hsame pair hpair)) cpu).symm.trans hdifference

/-- At power-on the carry flag is set.  With it, `3412 + 7856` goes past the four digits, and
`3412 - 7856` below zero. -/
theorem decimal_arithmetic_powerOn :
    ((∀ a ∈ [0x12, 0x34], IsPacked a) ∧ (∀ b ∈ [0x56, 0x78], IsPacked b) ∧
      powerOn.flags.c = true) ∧
    let added := ripple (computePacked .blank .adc .b) powerOn [(0x12, 0x56), (0x34, 0x78)]
    let subtracted := ripple (computePacked .blank .sbc .b) powerOn [(0x12, 0x56), (0x34, 0x78)]
    (added.1, added.2.flags.c) = ([0x69, 0x12], true) ∧
      (subtracted.1, subtracted.2.flags.c) = ([0x55, 0x55], true) := by
  have ha : ∀ a ∈ [0x12, 0x34], IsPacked a := by
    rw [List.forall_mem_cons, List.forall_mem_singleton]
    decide
  have hb : ∀ b ∈ [0x56, 0x78], IsPacked b := by
    rw [List.forall_mem_cons, List.forall_mem_singleton]
    decide
  have hc : powerOn.flags.c = true := rfl
  obtain ⟨-, -, hprogram⟩ := decimal_arithmetic [0x12, 0x34] [0x56, 0x78] true rfl ha hb
  obtain ⟨hadded, hsubtracted⟩ := hprogram powerOn .blank .b hc nofun
  exact ⟨⟨ha, hb, hc⟩, hadded.trans (by decide), hsubtracted.trans (by decide)⟩

end Cpu

end GameBoy
