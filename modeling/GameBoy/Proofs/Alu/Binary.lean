import GameBoy.Cpu.Execute
import GameBoy.Proofs.Alu.Ripple

/-!
# Addition and subtraction of many bytes

An addition of two bytes and a carry keeps the low byte of their sum and carries the rest,
`add_balance`, and a subtraction borrows what it lacks, `sub_balance`.  So a program that adds or
subtracts two numbers byte by byte, with the carry flag between the steps, gets what arithmetic on
the numbers gets: `multiByte_arithmetic`.

The other flags that such a program leaves are those of its last step.  The half borrow among them
compares the numbers without the high nibble of their last bytes, `halfBorrow_ripple`.
-/

namespace GameBoy

open Radix (binary isDigit_binary isDigit_of_mem)

namespace Alu

/-! ## One byte -/

theorem toNat_toUInt8 (carry : Bool) : carry.toUInt8.toNat = carry.toNat := by
  cases carry <;> rfl

theorem add_balance (a b : UInt8) (carry : Bool) :
    (add a b carry).value.toNat + 256 * (add a b carry).flags.c.toNat =
      a.toNat + b.toNat + carry.toNat := by
  have ha := a.toNat_lt
  have hb := b.toNat_lt
  have hcarry := carry.toNat_le
  simp only [add, UInt8.toNat_add, toNat_toUInt8]
  -- the sum leaves the byte or not, and the carry says which
  rcases Nat.lt_or_ge 0xFF (a.toNat + b.toNat + carry.toNat) with hover | hfits
  · simp only [hover, decide_true, Bool.toNat_true]
    omega
  · simp only [Nat.not_lt.mpr hfits, decide_false, Bool.toNat_false]
    omega

theorem sub_balance (a b : UInt8) (borrow : Bool) :
    (sub a b borrow).value.toNat + b.toNat + borrow.toNat =
      a.toNat + 256 * (sub a b borrow).flags.c.toNat := by
  have ha := a.toNat_lt
  have hb := b.toNat_lt
  have hborrow := borrow.toNat_le
  simp only [sub, UInt8.toNat_sub, toNat_toUInt8]
  -- the byte falls short or not, and the borrow says which
  rcases Nat.lt_or_ge a.toNat (b.toNat + borrow.toNat) with hless | henough
  · simp only [hless, decide_true, Bool.toNat_true]
    omega
  · simp only [Nat.not_lt.mpr henough, decide_false, Bool.toNat_false]
    omega

/-- An operation under a carry as a step along a list. -/
def carried {α : Type} (operation : α → Bool → Result) (carry : Bool) (x : α) : UInt8 × Bool :=
  let result := operation x carry
  (result.value, result.flags.c)

theorem computes_add : binary.Computes 1 (carried fun pair => add pair.1 pair.2) where
  isDigit _ _ _ _ _ := isDigit_binary _
  balance := by
    intro carry a b _ _
    have hbalance := add_balance a b carry
    show ((add a b carry).value.toNat : Int) =
      a.toNat + 1 * (b.toNat + carry.toNat) - 1 * 256 * (add a b carry).flags.c.toNat
    omega

theorem computes_sub : binary.Computes (-1) (carried fun pair => sub pair.1 pair.2) where
  isDigit _ _ _ _ _ := isDigit_binary _
  balance := by
    intro borrow a b _ _
    have hbalance := sub_balance a b borrow
    show ((sub a b borrow).value.toNat : Int) =
      a.toNat + -1 * (b.toNat + borrow.toNat) - -1 * 256 * (sub a b borrow).flags.c.toNat
    omega

end Alu

/-! ## Many bytes -/

/-- An operation that puts the accumulator, a byte and the carry flag together. -/
def AluOp.Combines (op : AluOp) (combine : UInt8 → UInt8 → Bool → Alu.Result) : Prop :=
  ∀ (cpu : Cpu) (b : UInt8), cpu.alu op b =
    let result := combine cpu.a b cpu.flags.c
    { cpu with a := result.value, flags := result.flags }

theorem AluOp.combines_adc : adc.Combines Alu.add := fun _ _ => rfl

theorem AluOp.combines_sbc : sbc.Combines Alu.sub := fun _ _ => rfl

namespace Cpu

open Alu

/-- Loads a byte into the accumulator, applies an operation to it and another byte, and gives what
the accumulator holds then. -/
def compute (op : AluOp) (cpu : Cpu) (pair : UInt8 × UInt8) : UInt8 × Cpu :=
  let next := { cpu with a := pair.1 }.alu op pair.2
  (next.a, next)

def withCarry (cpu : Cpu) (carry : Bool) : Cpu :=
  { cpu with flags := { cpu.flags with c := carry } }

variable (cpu : Cpu)

theorem compute_eq {op : AluOp} {combine : UInt8 → UInt8 → Bool → Result} (h : op.Combines combine)
    (pair : UInt8 × UInt8) :
    cpu.compute op pair =
      let result := combine pair.1 pair.2 cpu.flags.c
      (result.value, { cpu with a := result.value, flags := result.flags }) := by
  simp only [compute, h _ _]

/-- Of the registers, a chain hands on the carry flag alone. -/
theorem ripple_compute {op : AluOp} {combine : UInt8 → UInt8 → Bool → Result}
    (h : op.Combines combine) (pairs : List (UInt8 × UInt8)) :
    let run := ripple (compute op) cpu pairs
    (run.1, run.2.flags.c) =
      ripple (carried fun pair => combine pair.1 pair.2) cpu.flags.c pairs := by
  -- of the processor that a step leaves only the carry matters to the next one
  have hstep (cpu : Cpu) (pair : UInt8 × UInt8) (_ : pair ∈ pairs) :
      carried (fun pair => combine pair.1 pair.2) cpu.flags.c pair =
        ((cpu.compute op pair).1, (cpu.compute op pair).2.flags.c) := by
    rw [cpu.compute_eq h]
    rfl
  exact (ripple_view (·.flags.c) hstep cpu).symm

theorem ripple_adc {as bs : List UInt8} (hlength : as.length = bs.length) :
    let run := ripple (compute .adc) cpu (as.zip bs)
    (run.1, run.2.flags.c) =
      binary.sum as.length (binary.number as) (binary.number bs) cpu.flags.c :=
  (cpu.ripple_compute AluOp.combines_adc _).trans
    (computes_add.ripple_eq_sum hlength isDigit_of_mem isDigit_of_mem _)

theorem ripple_sbc {as bs : List UInt8} (hlength : as.length = bs.length) :
    let run := ripple (compute .sbc) cpu (as.zip bs)
    (run.1, run.2.flags.c) =
      binary.difference as.length (binary.number as) (binary.number bs) cpu.flags.c :=
  (cpu.ripple_compute AluOp.combines_sbc _).trans
    (computes_sub.ripple_eq_difference hlength isDigit_of_mem isDigit_of_mem _)

/-- Two numbers compare like the rest of them, with the borrow of their first bytes. -/
theorem borrow_lt_iff {a b : UInt8} {borrow : Bool} (m n : Nat) :
    m < n + (sub a b borrow).flags.c.toNat ↔
      a.toNat + 256 * m < b.toNat + 256 * n + borrow.toNat := by
  have ha := a.toNat_lt
  have hvalue := (sub a b borrow).value.toNat_lt
  have hbalance := sub_balance a b borrow
  omega

theorem halfBorrow_ripple (a b : UInt8) {as bs : List UInt8} (hlength : as.length = bs.length) :
    (ripple (compute .sbc) cpu ((a, b) :: as.zip bs)).2.flags.h =
      decide (binary.number (a :: as) % (16 * 256 ^ as.length) <
        binary.number (b :: bs) % (16 * 256 ^ as.length) + cpu.flags.c.toNat) := by
  -- by induction on the bytes above the first
  induction as generalizing cpu a b bs with
  | nil =>
      obtain rfl := List.eq_nil_of_length_eq_zero hlength.symm
      simp [ripple, cpu.compute_eq AluOp.combines_sbc, sub, binary]
  | cons a' as ih =>
      obtain ⟨b', bs, rfl⟩ := List.exists_cons_of_length_eq_add_one hlength.symm
      have hweight : 16 * 256 ^ (a' :: as).length = binary.base * (16 * 256 ^ as.length) := by
        rw [List.length_cons, pow_succ']
        exact Nat.mul_left_comm 16 256 _
      have ha := isDigit_binary a
      have hb := isDigit_binary b
      -- the first bytes matter for their borrow alone, which is the carry flag at the next ones
      calc (ripple (compute .sbc) cpu ((a, b) :: (a', b') :: as.zip bs)).2.flags.h
          = (ripple (compute .sbc) (cpu.compute .sbc (a, b)).2
              ((a', b') :: as.zip bs)).2.flags.h := rfl
        _ = _ := by
          rw [ih _ a' b' (Nat.succ.inj hlength), hweight, Radix.number_cons_mod_mul ha,
            Radix.number_cons_mod_mul hb]
          exact decide_eq_decide.mpr (borrow_lt_iff _ _)

/-- **Arithmetic of many bytes.** A chain of additions with carry gives the bytes of the sum of two
numbers and the carry flag at its start, and sets the carry flag at its end if the sum has more of
them.  A chain of subtractions with carry gives the bytes of the difference, sets the carry flag if
it is negative, and the half carry flag if it would be negative without the last four bits.  A first
step that leaves out the carry flag takes it for clear. -/
theorem multiByte_arithmetic {as bs : List UInt8} {n a b : Nat} (hn : 0 < n)
    (hlength : as.length = n) (hlength' : bs.length = n) (ha : binary.number as = a)
    (hb : binary.number bs = b) :
    let weight := 16 * 256 ^ (n - 1)
    let run first rest := rippleFrom (compute first) (compute rest) cpu (as.zip bs)
    let result first rest := ((run first rest).1, (run first rest).2.flags.c)
    result .adc .adc = binary.sum n a b cpu.flags.c ∧
      result .add .adc = binary.sum n a b false ∧
      result .sbc .sbc = binary.difference n a b cpu.flags.c ∧
      result .sub .sbc = binary.difference n a b false ∧
      (run .sbc .sbc).2.flags.h = decide (a % weight < b % weight + cpu.flags.c.toNat) ∧
      (run .sub .sbc).2.flags.h = decide (a % weight < b % weight) := by
  subst ha hb hlength
  obtain ⟨a, as, rfl⟩ := List.exists_cons_of_ne_nil (List.length_pos_iff.mp hn)
  obtain ⟨b, bs, rfl⟩ := List.exists_cons_of_length_eq_add_one hlength'
  have hlength : as.length = bs.length := (Nat.succ.inj hlength').symm
  intro weight run result
  have hadc : run .adc .adc = ripple (compute .adc) cpu ((a, b) :: as.zip bs) := rippleFrom_self _
  have hsbc : run .sbc .sbc = ripple (compute .sbc) cpu ((a, b) :: as.zip bs) := rippleFrom_self _
  -- to start with the plain operation is to start without a carry
  have hadd : run .add .adc = ripple (compute .adc) (cpu.withCarry false) ((a, b) :: as.zip bs) :=
    rippleFrom_cons (by rfl) _
  have hsub : run .sub .sbc = ripple (compute .sbc) (cpu.withCarry false) ((a, b) :: as.zip bs) :=
    rippleFrom_cons (by rfl) _
  simp only [result, hadc, hadd, hsbc, hsub]
  exact ⟨cpu.ripple_adc hlength'.symm, (cpu.withCarry false).ripple_adc hlength'.symm,
    cpu.ripple_sbc hlength'.symm, (cpu.withCarry false).ripple_sbc hlength'.symm,
    cpu.halfBorrow_ripple a b hlength, (cpu.withCarry false).halfBorrow_ripple a b hlength⟩

/-- At power-on the carry flag is set.  It goes through both bytes of `0x10FF + 0x0FFF`, and in the
difference of the same numbers it clears the high byte. -/
theorem multiByte_arithmetic_powerOn :
    let added := ripple (compute .adc) powerOn [(0xFF, 0xFF), (0x10, 0x0F)]
    let subtracted := ripple (compute .sbc) powerOn [(0xFF, 0xFF), (0x10, 0x0F)]
    powerOn.flags.c = true ∧ binary.number [0xFF, 0x10] = 0x10FF ∧
      binary.number [0xFF, 0x0F] = 0x0FFF ∧
      (added.1, added.2.flags.c) = ([0xFF, 0x20], false) ∧
      (subtracted.1, subtracted.2.flags.c) = ([0xFF, 0x00], false) ∧
      subtracted.2.flags.h = true := by
  have ha : binary.number [0xFF, 0x10] = 0x10FF := rfl
  have hb : binary.number [0xFF, 0x0F] = 0x0FFF := rfl
  obtain ⟨hadded, -, hsubtracted, -, hhalf, -⟩ :=
    multiByte_arithmetic powerOn Nat.two_pos rfl rfl ha hb
  exact ⟨rfl, ha, hb, hadded.trans (by decide), hsubtracted.trans (by decide),
    hhalf.trans (by decide)⟩

end Cpu

end GameBoy
