import Mathlib.Logic.Function.Iterate
import GameBoy.Proofs.Width

/-!
# Periods of a counter

A counter pays out whole periods in a loop: `drain?` takes the period off as long as it fits, with
one round each time, and fails where the counter would go below zero.  It is the division that it
looks like, `drain?_eq_some`.
-/

namespace GameBoy.Counter

open Width

variable {α : Type}

/-- Takes a period off a counter as long as it fits, with one round each time.  A loop that gets
nowhere has no result. -/
def drain? (period : Nat) (round : α → α) (counter : Nat) (state : α) : Option (α × Nat) :=
  if period ≤ counter then do
    let rest ← difference? counter period
    if _ : rest < counter then drain? period round rest (round state) else none
  else
    some (state, counter)
termination_by counter

theorem drain?_eq_some {period : Nat} (hperiod : 0 < period) (round : α → α) (counter : Nat)
    (state : α) :
    drain? period round counter state =
      some (round^[counter / period] state, counter % period) := by
  -- by strong induction: a turn takes a whole period off the counter
  induction counter using Nat.strongRecOn generalizing state with
  | ind counter ih =>
      rw [drain?]
      split
      · rename_i hfits
        have hrounds : counter / period = (counter - period) / period + 1 :=
          Nat.div_eq_sub_div hperiod hfits
        have hless : counter - period < counter :=
          Nat.sub_lt (Nat.lt_of_lt_of_le hperiod hfits) hperiod
        rw [difference?_eq_some hfits, Option.bind_eq_bind, Option.bind_some, dif_pos hless,
          ih _ hless, hrounds, Function.iterate_succ_apply, Nat.mod_eq_sub_mod hfits]
      · rename_i hshort
        have hlt : counter < period := Nat.lt_of_not_le hshort
        rw [Nat.div_eq_of_lt hlt, Nat.mod_eq_of_lt hlt]
        rfl

end GameBoy.Counter
