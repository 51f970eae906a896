/-!
# Arithmetic of limited width

Counters and places are words of a fixed number of bits, which neither wrap around nor go below
zero.  The operations here fail where a number would leave its range.
-/

namespace GameBoy.Width

def sum? (bits a b : Nat) : Option Nat := if a + b < 1 <<< bits then some (a + b) else none

def difference? (a b : Nat) : Option Nat := if b ≤ a then some (a - b) else none

variable {bits a b : Nat}

theorem sum?_eq_some_iff {sum : Nat} :
    sum? bits a b = some sum ↔ a + b < 1 <<< bits ∧ a + b = sum := by
  unfold sum?
  split <;> simp [*]

theorem difference?_eq_some (h : b ≤ a) : difference? a b = some (a - b) := if_pos h

end GameBoy.Width
