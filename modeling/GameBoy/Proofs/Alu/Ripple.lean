import Mathlib.Tactic.LinearCombination
import GameBoy.Proofs.Numeral

/-!
# Carries along a list

Arithmetic on numbers of several bytes goes from one byte to the next and hands on what the step
leaves behind, a carry or all registers.  `ripple` is this loop, and `rippleFrom` the same with a
step of its own for the first byte.

A step `Radix.Computes` if it adds or subtracts two digits and a carry correctly.  What carries the
induction over all bytes is a balance, `number_ripple`: the digits written so far and the carry, at
the weight of the digit that follows, make up what has been read.  Since no digits reach that
weight, the balance leaves a single possibility for both, `ripple_eq_sum` and
`ripple_eq_difference`.
-/

namespace GameBoy

/-! ## The loop -/

section Ripple

variable {σ τ α β γ : Type}

/-- Passes a state along a list and collects what each step gives. -/
def ripple (step : σ → α → β × σ) (state : σ) : List α → List β × σ
  | [] => ([], state)
  | x :: xs =>
    let (y, next) := step state x
    let (ys, last) := ripple step next xs
    (y :: ys, last)

/-- Like `ripple`, with a step of its own for the first element. -/
def rippleFrom (first step : σ → α → β × σ) (state : σ) : List α → List β × σ
  | [] => ([], state)
  | x :: xs =>
    let (y, next) := first state x
    let (ys, last) := ripple step next xs
    (y :: ys, last)

variable {step : σ → α → β × σ} {state : σ}

@[simp] theorem length_ripple (step : σ → α → β × σ) (state : σ) (xs : List α) :
    (ripple step state xs).1.length = xs.length := by
  induction xs generalizing state with
  | nil => rfl
  | cons x xs ih => simp [ripple, ih]

/-- A step that sees a part of the state only may as well pass on that part alone. -/
theorem ripple_view (view : σ → τ) {step' : τ → α → β × τ} {xs : List α}
    (h : ∀ state, ∀ x ∈ xs, step' (view state) x = ((step state x).1, view (step state x).2))
    (state : σ) :
    ripple step' (view state) xs =
      ((ripple step state xs).1, view (ripple step state xs).2) := by
  -- by induction on the list, the state being seen through `view` all the way
  induction xs generalizing state with
  | nil => rfl
  | cons x xs ih =>
      obtain ⟨hx, hxs⟩ : _ ∧ _ := ⟨h state x List.mem_cons_self,
        fun state y hy => h state y (List.mem_cons_of_mem x hy)⟩
      simp only [ripple, hx, ih hxs]

theorem ripple_concat (xs : List α) (x : α) :
    ripple step state (xs ++ [x]) =
      let (ys, next) := ripple step state xs
      let (y, last) := step next x
      (ys ++ [y], last) := by
  induction xs generalizing state with
  | nil => rfl
  | cons z xs ih => simp [ripple, ih]

theorem rippleFrom_self (xs : List α) : rippleFrom step step state xs = ripple step state xs := by
  cases xs <;> rfl

/-- A first step that does what `step` would do in another state. -/
theorem rippleFrom_cons {first : σ → α → β × σ} {other : σ} {x : α}
    (h : first state x = step other x) (xs : List α) :
    rippleFrom first step state (x :: xs) = ripple step other (x :: xs) := by
  simp only [rippleFrom, ripple, h]

end Ripple

/-! ## Digits and carries -/

namespace Radix

/-- A step that leaves `a + sign * (b + carry)`, less a carry out of the digit. -/
structure Computes (radix : Radix) (sign : Int) (step : Bool → UInt8 × UInt8 → UInt8 × Bool) :
    Prop where
  isDigit : ∀ carry a b, radix.IsDigit a → radix.IsDigit b → radix.IsDigit (step carry (a, b)).1
  balance : ∀ carry a b, radix.IsDigit a → radix.IsDigit b →
    (radix.digit (step carry (a, b)).1 : Int) =
      radix.digit a + sign * (radix.digit b + carry.toNat) -
        sign * radix.base * (step carry (a, b)).2.toNat

namespace Computes

variable {radix : Radix} {sign : Int} {step : Bool → UInt8 × UInt8 → UInt8 × Bool}
  {pairs : List (UInt8 × UInt8)}

theorem isDigit_ripple (h : radix.Computes sign step)
    (hpairs : ∀ pair ∈ pairs, radix.IsDigit pair.1 ∧ radix.IsDigit pair.2) (carry : Bool) :
    ∀ b ∈ (ripple step carry pairs).1, radix.IsDigit b := by
  induction pairs generalizing carry with
  | nil => exact fun b hb => absurd hb List.not_mem_nil
  | cons pair pairs ih =>
      obtain ⟨hpair, hrest⟩ := List.forall_mem_cons.mp hpairs
      have hfirst := h.isDigit carry pair.1 pair.2 hpair.1 hpair.2
      exact List.forall_mem_cons.mpr ⟨hfirst, ih hrest _⟩

theorem number_ripple (h : radix.Computes sign step)
    (hpairs : ∀ pair ∈ pairs, radix.IsDigit pair.1 ∧ radix.IsDigit pair.2) (carry : Bool) :
    (radix.number (ripple step carry pairs).1 : Int) =
      radix.number (pairs.map Prod.fst) +
        sign * (radix.number (pairs.map Prod.snd) + carry.toNat) -
        sign * radix.base ^ pairs.length * (ripple step carry pairs).2.toNat := by
  induction pairs generalizing carry with
  | nil => simp [ripple]
  | cons pair pairs ih =>
      obtain ⟨hpair, hrest⟩ := List.forall_mem_cons.mp hpairs
      have hfirst := h.balance carry pair.1 pair.2 hpair.1 hpair.2
      -- the carry into the rest appears on both sides and drops out
      have hothers := ih hrest (step carry pair).2
      simp only [ripple, List.map_cons, number_cons, List.length_cons, Nat.cast_add, Nat.cast_mul,
        pow_succ']
      linear_combination hfirst + (radix.base : Int) * hothers

variable {as bs : List UInt8}

theorem isDigit_zip (ha : ∀ a ∈ as, radix.IsDigit a) (hb : ∀ b ∈ bs, radix.IsDigit b) :
    ∀ pair ∈ as.zip bs, radix.IsDigit pair.1 ∧ radix.IsDigit pair.2 := by
  rintro ⟨a, b⟩ hpair
  exact ⟨ha a (List.of_mem_zip hpair).1, hb b (List.of_mem_zip hpair).2⟩

/-- The bytes of a run stand for a number below the weight of the carry that is left, and are the
numeral of it. -/
theorem balance_ripple (h : radix.Computes sign step) (hlength : as.length = bs.length)
    (ha : ∀ a ∈ as, radix.IsDigit a) (hb : ∀ b ∈ bs, radix.IsDigit b) (carry : Bool) :
    ∃ rest out, ripple step carry (as.zip bs) = (radix.numeral as.length rest, out) ∧
      rest < radix.base ^ as.length ∧
      (rest : Int) = radix.number as + sign * (radix.number bs + carry.toNat) -
        sign * (radix.base ^ as.length * out.toNat) := by
  have hpairs := isDigit_zip ha hb
  have hlengths : (as.zip bs).length = as.length := by
    rw [List.length_zip, ← hlength, Nat.min_self]
  have hdigits := h.isDigit_ripple hpairs carry
  have hlt := number_lt hdigits
  have hnumeral := numeral_number hdigits
  have hbalance := h.number_ripple hpairs carry
  rw [length_ripple, hlengths] at hlt hnumeral
  rw [List.map_fst_zip hlength.le, List.map_snd_zip hlength.ge, hlengths, mul_assoc] at hbalance
  exact ⟨_, _, Prod.ext hnumeral.symm rfl, hlt, hbalance⟩

theorem ripple_eq_sum (h : radix.Computes 1 step) (hlength : as.length = bs.length)
    (ha : ∀ a ∈ as, radix.IsDigit a) (hb : ∀ b ∈ bs, radix.IsDigit b) (carry : Bool) :
    ripple step carry (as.zip bs) =
      radix.sum as.length (radix.number as) (radix.number bs) carry := by
  obtain ⟨rest, out, hripple, hlt, hbalance⟩ := h.balance_ripple hlength ha hb carry
  have htotal : rest + radix.base ^ as.length * out.toNat =
      radix.number as + radix.number bs + carry.toNat := by
    zify
    linear_combination hbalance
  rw [sum, hripple, mod_of_balance hlt htotal, carry_of_balance hlt htotal]

theorem ripple_eq_difference (h : radix.Computes (-1) step) (hlength : as.length = bs.length)
    (ha : ∀ a ∈ as, radix.IsDigit a) (hb : ∀ b ∈ bs, radix.IsDigit b) (borrow : Bool) :
    ripple step borrow (as.zip bs) =
      radix.difference as.length (radix.number as) (radix.number bs) borrow := by
  obtain ⟨rest, out, hripple, hlt, hbalance⟩ := h.balance_ripple hlength ha hb borrow
  have htotal : (radix.number as : Int) - radix.number bs - borrow.toNat =
      rest - radix.base ^ as.length * out.toNat := by
    linear_combination -hbalance
  have hbelow : (rest : Int) < (radix.base : Int) ^ as.length := by exact_mod_cast hlt
  -- what is left is in the range of a remainder, so it is the remainder
  have hmod : ((radix.number as : Int) - radix.number bs - borrow.toNat) %
      radix.base ^ as.length = rest := by
    rw [htotal, Int.sub_mul_emod_self_left]
    exact Int.emod_eq_of_lt (Int.natCast_nonneg rest) hbelow
  -- a borrow is due exactly if the difference is negative
  have hborrow : decide (radix.number as < radix.number bs + borrow.toNat) = out := by
    cases out with
    | false =>
        simp only [Bool.toNat_false, Nat.cast_zero, mul_zero] at htotal
        simp only [decide_eq_false_iff_not]
        omega
    | true =>
        simp only [Bool.toNat_true, Nat.cast_one, mul_one] at htotal
        simp only [decide_eq_true_iff]
        omega
  rw [difference, hripple, hmod, hborrow, Int.toNat_natCast]

end Computes

end Radix

end GameBoy
