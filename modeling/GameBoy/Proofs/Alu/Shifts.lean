import Mathlib.Data.Nat.Bitwise
import GameBoy.Proofs.Alu.Binary

/-!
# Shifts of many bytes

A rotation through the carry shifts a number of many bytes, if it goes from byte to byte in the
right direction: to the left from the least significant byte up, to the right from the most
significant one down.  Both directions come with a balance.  A shift to the left doubles the number
and adds the carry, `number_rl`; a shift to the right halves it, with the carry above the last byte,
`number_rr`.  These are one equation, read from either side, and so each direction undoes the other.

The other shifts differ in what they shift into the first byte: `sla` and `srl` a zero, `sra` its
top bit.  `multiByte_shifts` says what all of them make of a number.
-/

namespace GameBoy.Alu

open Radix (binary isDigit_of_mem numeral_number number_lt)

/-! ## One byte -/

theorem toNat_bit_seven (a : UInt8) : (bit a 7).toNat = a.toNat / 128 := by
  have ha := a.toNat_lt
  rw [bit, Nat.toNat_testBit]
  omega

theorem toNat_bit_zero (a : UInt8) : (bit a 0).toNat = a.toNat % 2 := by
  rw [bit, Nat.toNat_testBit, pow_zero, Nat.div_one]

theorem rl_balance (a : UInt8) (carry : Bool) :
    (rl a carry).value.toNat + 256 * (rl a carry).flags.c.toNat = 2 * a.toNat + carry.toNat := by
  have ha := a.toNat_lt
  have hcarry := carry.toNat_le
  have hdouble : (a <<< 1).toNat = (a.toNat % 128) <<< 1 := by
    rw [UInt8.toNat_shiftLeft, Nat.shiftLeft_eq, Nat.shiftLeft_eq]
    show a.toNat * 2 % 256 = a.toNat % 128 * 2
    omega
  -- the byte is doubled without its top bit, so the carry comes into a free place
  have hvalue : (rl a carry).value.toNat = a.toNat % 128 * 2 + carry.toNat := by
    show (a <<< 1 ||| carry.toUInt8).toNat = _
    rw [UInt8.toNat_or, hdouble, toNat_toUInt8, ← Nat.shiftLeft_add_eq_or_of_lt (by omega),
      Nat.shiftLeft_eq]
  have hout : (rl a carry).flags.c.toNat = a.toNat / 128 := toNat_bit_seven a
  rw [hvalue, hout]
  omega

theorem rr_balance (a : UInt8) (carry : Bool) :
    2 * (rr a carry).value.toNat + (rr a carry).flags.c.toNat = a.toNat + 256 * carry.toNat := by
  have ha := a.toNat_lt
  have hhalf : (a >>> 1).toNat = a.toNat / 2 := by
    rw [UInt8.toNat_shiftRight, Nat.shiftRight_eq_div_pow]
    rfl
  have htop : (carry.toUInt8 <<< 7).toNat = carry.toNat <<< 7 := by cases carry <;> rfl
  -- the carry comes in above the halved byte
  have hvalue : (rr a carry).value.toNat = carry.toNat * 128 + a.toNat / 2 := by
    show (a >>> 1 ||| carry.toUInt8 <<< 7).toNat = _
    rw [UInt8.toNat_or, hhalf, htop, Nat.or_comm, ← Nat.shiftLeft_add_eq_or_of_lt (by omega),
      Nat.shiftLeft_eq]
  have hout : (rr a carry).flags.c.toNat = a.toNat % 2 := toNat_bit_zero a
  rw [hvalue, hout]
  omega

theorem sla_eq (a : UInt8) : sla a = rl a false := by
  have hzero : false.toUInt8 = 0 := rfl
  rw [sla, rl, hzero, UInt8.or_zero]

theorem srl_eq (a : UInt8) : srl a = rr a false := by
  have hzero : false.toUInt8 <<< 7 = 0 := rfl
  rw [srl, rr, hzero, UInt8.or_zero]

theorem sra_eq (a : UInt8) : sra a = rr a (bit a 7) := by
  have hmask : (a &&& (0x80 : UInt8)).toNat = (bit a 7).toNat * 2 ^ 7 := by
    rw [UInt8.toNat_and]
    exact Nat.and_two_pow a.toNat 7
  have htop : a &&& (0x80 : UInt8) = (bit a 7).toUInt8 <<< 7 := by
    apply UInt8.toNat_inj.mp
    rw [hmask]
    cases bit a 7 <;> rfl
  rw [sra, rr, htop]

/-! ## Many bytes -/

theorem number_bytes_cons (b : UInt8) (bytes : List UInt8) :
    binary.number (b :: bytes) = b.toNat + 256 * binary.number bytes :=
  Radix.number_cons binary b bytes

theorem number_rl (bytes : List UInt8) (carry : Bool) :
    let up := ripple (carried rl) carry bytes
    binary.number up.1 + 256 ^ bytes.length * up.2.toNat =
      2 * binary.number bytes + carry.toNat := by
  -- from the least significant byte up: its top bit goes into the next one
  induction bytes generalizing carry with
  | nil => simp [ripple]
  | cons b bytes ih =>
      have hfirst := rl_balance b carry
      have hothers := ih (rl b carry).flags.c
      simp only [ripple, carried, number_bytes_cons, List.length_cons, pow_succ', mul_assoc]
        at hothers ⊢
      omega

/-- The bytes from the most significant one down are those of the list from its end. -/
theorem number_rr (bytes : List UInt8) (carry : Bool) :
    let down := ripple (carried rr) carry bytes.reverse
    2 * binary.number down.1.reverse + down.2.toNat =
      binary.number bytes + 256 ^ bytes.length * carry.toNat := by
  -- from the most significant byte down, so the first of the list is the last one shifted
  induction bytes with
  | nil => simp [ripple]
  | cons b bytes ih =>
      have hlast := rr_balance b (ripple (carried rr) carry bytes.reverse).2
      simp only [List.reverse_cons, ripple_concat, carried, List.reverse_append, List.reverse_nil,
        List.nil_append, List.singleton_append, number_bytes_cons, List.length_cons, pow_succ',
        mul_assoc]
      dsimp only [carried] at ih hlast ⊢
      omega

/-! ## Numerals -/

section Numerals

variable {bytes : List UInt8} {n : Nat}

theorem number_lt_of_length (h : bytes.length = n) : binary.number bytes < 256 ^ n :=
  h ▸ number_lt isDigit_of_mem

theorem numeral_of_length (h : bytes.length = n) : binary.numeral n (binary.number bytes) = bytes :=
  h ▸ numeral_number isDigit_of_mem

end Numerals

theorem ripple_rl (bytes : List UInt8) (carry : Bool) :
    ripple (carried rl) carry bytes =
      (binary.numeral bytes.length ((2 * binary.number bytes + carry.toNat) % 256 ^ bytes.length),
        decide (256 ^ bytes.length ≤ 2 * binary.number bytes + carry.toNat)) := by
  have hbalance := number_rl bytes carry
  have hlength := length_ripple (carried rl) carry bytes
  generalize ripple (carried rl) carry bytes = up at hbalance hlength ⊢
  obtain ⟨shifted, out⟩ := up
  have hlt : binary.number shifted < 256 ^ bytes.length := number_lt_of_length hlength
  rw [mod_of_balance hlt hbalance, numeral_of_length hlength, carry_of_balance hlt hbalance]

theorem ripple_rr (bytes : List UInt8) (carry : Bool) :
    ripple (carried rr) carry bytes.reverse =
      ((binary.numeral bytes.length
          ((binary.number bytes + 256 ^ bytes.length * carry.toNat) / 2)).reverse,
        decide ((binary.number bytes + 256 ^ bytes.length * carry.toNat) % 2 = 1)) := by
  have hbalance := number_rr bytes carry
  have hlength := length_ripple (carried rr) carry bytes.reverse
  generalize ripple (carried rr) carry bytes.reverse = down at hbalance hlength ⊢
  obtain ⟨shifted, out⟩ := down
  have hreversed : shifted.reverse.length = bytes.length := by simpa using hlength
  dsimp only at hbalance
  have hhalf : (binary.number bytes + 256 ^ bytes.length * carry.toNat) / 2 =
      binary.number shifted.reverse := by
    have hout := out.toNat_le
    omega
  have hout : decide ((binary.number bytes + 256 ^ bytes.length * carry.toNat) % 2 = 1) = out := by
    rw [← hbalance]
    cases out <;> simp [Nat.add_mod]
  rw [hhalf, numeral_of_length hreversed, List.reverse_reverse, hout]

/-! ## Either direction undoes the other -/

theorem ripple_rr_rl (bytes : List UInt8) (carry : Bool) :
    let up := ripple (carried rl) carry bytes
    ripple (carried rr) up.2 up.1.reverse = (bytes.reverse, carry) := by
  intro up
  have hup : binary.number up.1 + 256 ^ bytes.length * up.2.toNat =
      2 * binary.number bytes + carry.toNat := number_rl bytes carry
  have hlength : up.1.length = bytes.length := length_ripple _ _ _
  rw [ripple_rr, hlength, hup]
  have hcarry := carry.toNat_le
  have hhalf : (2 * binary.number bytes + carry.toNat) / 2 = binary.number bytes := by omega
  have hodd : decide ((2 * binary.number bytes + carry.toNat) % 2 = 1) = carry := by
    cases carry <;> simp [Nat.add_mod]
  rw [hhalf, numeral_of_length rfl, hodd]

theorem ripple_rl_rr (bytes : List UInt8) (carry : Bool) :
    let down := ripple (carried rr) carry bytes.reverse
    ripple (carried rl) down.2 down.1.reverse = (bytes, carry) := by
  intro down
  have hdown : 2 * binary.number down.1.reverse + down.2.toNat =
      binary.number bytes + 256 ^ bytes.length * carry.toNat := number_rr bytes carry
  have hlength : down.1.reverse.length = bytes.length := by
    rw [List.length_reverse, length_ripple, List.length_reverse]
  have hlt : binary.number bytes < 256 ^ bytes.length := number_lt_of_length rfl
  rw [ripple_rl, hlength, hdown, mod_of_balance hlt rfl, numeral_of_length rfl,
    carry_of_balance hlt rfl]

/-! ## The bits at both ends -/

theorem testBit_top {n value : Nat} (hn : 0 < n) (carry : Bool) (h : value < 256 ^ n) :
    value.testBit (8 * n - 1) = decide (256 ^ n ≤ 2 * value + carry.toNat) := by
  have hcarry := carry.toNat_le
  have hpow : 256 ^ n = 2 * 2 ^ (8 * n - 1) := by
    calc 256 ^ n = 2 ^ (8 * n) := (pow_mul 2 8 n).symm
      _ = 2 * 2 ^ (8 * n - 1) := by rw [← pow_succ', Nat.sub_add_cancel (by omega)]
  -- the top bit is set exactly if doubling leaves the width
  rcases Nat.lt_or_ge value (2 ^ (8 * n - 1)) with hlow | hhigh
  · have hfits : ¬ 256 ^ n ≤ 2 * value + carry.toNat := by omega
    rw [Nat.testBit_lt_two_pow hlow, decide_eq_false hfits]
  · have hover : 256 ^ n ≤ 2 * value + carry.toNat := by omega
    have hquotient : value / 2 ^ (8 * n - 1) = 1 := Nat.div_eq_of_lt_le (by omega) (by omega)
    rw [Nat.testBit_eq_decide_div_mod_eq, hquotient, decide_eq_true hover]
    rfl

theorem add_weight_mod_two {n : Nat} (hn : 0 < n) (value : Nat) (carry : Bool) :
    (value + 256 ^ n * carry.toNat) % 2 = value % 2 := by
  have heven : 256 ^ n = 2 * (128 * 256 ^ (n - 1)) := by
    calc 256 ^ n
        = 256 * 256 ^ (n - 1) := by rw [← pow_succ', Nat.sub_add_cancel hn]
      _ = 2 * (128 * 256 ^ (n - 1)) := Nat.mul_assoc 2 128 _
  rw [heven, mul_assoc, Nat.add_mul_mod_self_left]

/-- The top bit of a number is that of its last byte, which a shift to the left carries out. -/
theorem testBit_number_concat (bytes : List UInt8) (b : UInt8) :
    (binary.number (bytes ++ [b])).testBit (8 * (bytes ++ [b]).length - 1) = bit b 7 := by
  have hpos : 0 < (bytes ++ [b]).length := by simp
  calc (binary.number (bytes ++ [b])).testBit (8 * (bytes ++ [b]).length - 1)
      = (ripple (carried rl) false (bytes ++ [b])).2 := by
        rw [ripple_rl, testBit_top hpos false (number_lt_of_length rfl)]
    _ = bit b 7 := by rw [ripple_concat]; rfl

/-! ## The first byte -/

section First

variable (b : UInt8) (bytes : List UInt8) (carry : Bool)

theorem rippleFrom_sla :
    rippleFrom (carried fun b _ => sla b) (carried rl) carry (b :: bytes) =
      ripple (carried rl) false (b :: bytes) :=
  rippleFrom_cons (by simp only [carried, sla_eq]) bytes

theorem rippleFrom_srl :
    rippleFrom (carried fun b _ => srl b) (carried rr) carry (b :: bytes) =
      ripple (carried rr) false (b :: bytes) :=
  rippleFrom_cons (by simp only [carried, srl_eq]) bytes

theorem rippleFrom_sra :
    rippleFrom (carried fun b _ => sra b) (carried rr) carry (b :: bytes) =
      ripple (carried rr) (bit b 7) (b :: bytes) :=
  rippleFrom_cons (by simp only [carried, sra_eq]) bytes

end First

/-- A number of `n` bytes in two's complement. -/
def signed (n value : Nat) : Int :=
  if value.testBit (8 * n - 1) then (value : Int) - 256 ^ n else value

/-- Half a number in two's complement is half the number with its top bit put on top once more. -/
theorem signed_div_two {n value : Nat} (h : value < 256 ^ n) :
    ((signed n value / 2) % 256 ^ n).toNat =
      (value + 256 ^ n * (value.testBit (8 * n - 1)).toNat) / 2 := by
  have hbelow : (value : Int) < 256 ^ n := by exact_mod_cast h
  unfold signed
  cases value.testBit (8 * n - 1) with
  | false =>
      have hmod : ((value : Int) / 2) % 256 ^ n = (value / 2 : Nat) :=
        Int.emod_eq_of_lt (by omega) (by omega)
      rw [if_neg Bool.false_ne_true, hmod, Int.toNat_natCast, Bool.toNat_false, mul_zero, add_zero]
  | true =>
      -- the sign leaves the halved number at the bottom and comes back at the top
      have hhalf : ((value : Int) - 256 ^ n) / 2 = ((value + 256 ^ n) / 2 : Nat) - 256 ^ n := by
        push_cast
        omega
      have hlt : (((value + 256 ^ n) / 2 : Nat) : Int) < 256 ^ n := by
        push_cast
        omega
      rw [if_pos rfl, hhalf, Int.sub_emod_right, Int.emod_eq_of_lt (Int.natCast_nonneg _) hlt,
        Int.toNat_natCast, Bool.toNat_true, mul_one]

/-- **Shifts of many bytes.** Through the carry, the shift to the left doubles a number and the
shift to the right halves it, the carry comes in at one end, and the bit at the other end goes out.
Each undoes the other.  If the first byte is shifted without the carry, a zero comes in, or to the
right the top bit, which halves the number as a signed one. -/
theorem multiByte_shifts {bytes : List UInt8} {n value : Nat} (hn : 0 < n)
    (hlength : bytes.length = n) (hvalue : binary.number bytes = value) (carry : Bool) :
    let top := value.testBit (8 * n - 1)
    let odd := decide (value % 2 = 1)
    let up := ripple (carried rl) carry bytes
    let down := ripple (carried rr) carry bytes.reverse
    up = (binary.numeral n ((2 * value + carry.toNat) % 256 ^ n), top) ∧
      rippleFrom (carried fun b _ => sla b) (carried rl) carry bytes =
        (binary.numeral n (2 * value % 256 ^ n), top) ∧
      down = ((binary.numeral n ((value + 256 ^ n * carry.toNat) / 2)).reverse, odd) ∧
      rippleFrom (carried fun b _ => srl b) (carried rr) carry bytes.reverse =
        ((binary.numeral n (value / 2)).reverse, odd) ∧
      rippleFrom (carried fun b _ => sra b) (carried rr) carry bytes.reverse =
        ((binary.numeral n ((signed n value / 2) % 256 ^ n).toNat).reverse, odd) ∧
      ripple (carried rr) up.2 up.1.reverse = (bytes.reverse, carry) ∧
      ripple (carried rl) down.2 down.1.reverse = (bytes, carry) := by
  have hne : bytes ≠ [] := List.length_pos_iff.mp (hlength ▸ hn)
  have hlt : value < 256 ^ n := hvalue ▸ number_lt_of_length hlength
  have hup (carry : Bool) : ripple (carried rl) carry bytes =
      (binary.numeral n ((2 * value + carry.toNat) % 256 ^ n), value.testBit (8 * n - 1)) := by
    rw [ripple_rl, hlength, hvalue, testBit_top hn carry hlt]
  have hdown (carry : Bool) : ripple (carried rr) carry bytes.reverse =
      ((binary.numeral n ((value + 256 ^ n * carry.toNat) / 2)).reverse,
        decide (value % 2 = 1)) := by
    rw [ripple_rr, hlength, hvalue, add_weight_mod_two hn]
  -- to the left the first byte is the least significant one, to the right the most significant one
  obtain ⟨low, others, hbytes⟩ := List.exists_cons_of_ne_nil hne
  obtain ⟨high, rest, hreverse⟩ := List.exists_cons_of_ne_nil (List.reverse_ne_nil_iff.mpr hne)
  refine ⟨hup carry, ?sla, hdown carry, ?srl, ?sra, ripple_rr_rl bytes carry,
    ripple_rl_rr bytes carry⟩
  case sla =>
    rw [hbytes, rippleFrom_sla, ← hbytes]
    exact hup false
  case srl =>
    rw [hreverse, rippleFrom_srl, ← hreverse]
    exact hdown false
  case sra =>
    have hconcat : bytes = rest.reverse ++ [high] := by
      rw [← List.reverse_cons, ← hreverse, List.reverse_reverse]
    -- the sign of the number is that of its most significant byte
    have htop : value.testBit (8 * n - 1) = bit high 7 := by
      rw [← hvalue, ← hlength, hconcat]
      exact testBit_number_concat rest.reverse high
    rw [hreverse, rippleFrom_sra, ← hreverse, signed_div_two hlt, htop]
    exact hdown (bit high 7)

/-- The two bytes stand for `0x8001`, which is negative as a signed number.  Of the shifts to the
right with a clear carry flag, `sra` alone keeps it negative. -/
theorem multiByte_shifts_negative :
    let bytes := [0x01, 0x80]
    bytes.length = 2 ∧ binary.number bytes = 0x8001 ∧
      ripple (carried rl) false bytes = ([0x02, 0x00], true) ∧
      ripple (carried rr) false bytes.reverse = ([0x40, 0x00], true) ∧
      rippleFrom (carried fun b _ => srl b) (carried rr) false bytes.reverse =
        ([0x40, 0x00], true) ∧
      rippleFrom (carried fun b _ => sra b) (carried rr) false bytes.reverse =
        ([0xC0, 0x00], true) := by
  have hlength : [0x01, 0x80].length = 2 := rfl
  have hvalue : binary.number [0x01, 0x80] = 0x8001 := rfl
  obtain ⟨hrl, -, hrr, hsrl, hsra, -, -⟩ := multiByte_shifts (by decide) hlength hvalue false
  exact ⟨hlength, hvalue, hrl.trans (by decide), hrr.trans (by decide), hsrl.trans (by decide),
    hsra.trans (by decide)⟩

end GameBoy.Alu
