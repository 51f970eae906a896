import Mathlib.Algebra.Group.Nat.Defs
import GameBoy.Width

/-!
# Numbers and places of limited width

Counters only add and subtract.  The conversion of a row multiplies and shifts as well, with bytes,
words and signed words, and uses places in buffers of a fixed length.  The operations here fail
where a number would leave its range, a shift would be as wide as the number it moves, or a place
would lie outside its buffer; each comes with the condition under which it does not.
-/

namespace GameBoy.Width

/-! ## Numbers -/

def product? (bits a b : Nat) : Option Nat := if a * b < 2 ^ bits then some (a * b) else none

def shiftRight? (bits a distance : Nat) : Option Nat :=
  if distance < bits then some (a >>> distance) else none

def shiftLeft? (bits a distance : Nat) : Option Nat :=
  if distance < bits then some (a <<< distance % 2 ^ bits) else none

/-- A number as a signed word. -/
def signed? (n : Int) : Option Int := if -0x8000 ≤ n ∧ n < 0x8000 then some n else none

variable {bits a b distance : Nat}

theorem sum?_eq_some (h : a + b < 2 ^ bits) : sum? bits a b = some (a + b) := by
  rw [sum?, Nat.one_shiftLeft, if_pos h]

theorem sum?_eq_none (h : 2 ^ bits ≤ a + b) : sum? bits a b = none := by
  rw [sum?, Nat.one_shiftLeft, if_neg (Nat.not_lt_of_le h)]

theorem product?_eq_some (h : a * b < 2 ^ bits) : product? bits a b = some (a * b) := if_pos h

theorem shiftRight?_eq_some (h : distance < bits) :
    shiftRight? bits a distance = some (a >>> distance) := if_pos h

theorem shiftLeft?_eq_some (h : distance < bits) :
    shiftLeft? bits a distance = some (a <<< distance % 2 ^ bits) := if_pos h

theorem signed?_eq_some {n : Int} (h : -0x8000 ≤ n ∧ n < 0x8000) : signed? n = some n := if_pos h

/-! ## Places -/

variable {α : Type} {n : Nat}

def put? (buffer : Vector α n) (i : Nat) (value : α) : Option (Vector α n) :=
  if h : i < n then some (buffer.set i value h) else none

theorem put?_eq_some (buffer : Vector α n) {i : Nat} (h : i < n) (value : α) :
    put? buffer i value = some (buffer.set i value h) := dif_pos h

/-- Fills the places from a start on, each with a value that may be missing. -/
def fill? (start : Nat) (value? : Nat → Option α) (buffer : Vector α n) : Option (Vector α n) :=
  Vector.ofFnM fun i => if start ≤ i.val then value? i.val else some buffer[i.val]

theorem fill?_eq_some {start : Nat} {value? : Nat → Option α} {value : Nat → α}
    (h : ∀ i < n, start ≤ i → value? i = some (value i)) (buffer : Vector α n) :
    fill? start value? buffer =
      some (.ofFn fun i => if start ≤ i.val then value i.val else buffer[i.val]) := by
  have hplace (i : Fin n) : (if start ≤ i.val then value? i.val else some buffer[i.val]) =
      some (if start ≤ i.val then value i.val else buffer[i.val]) := by
    split
    · rename_i hle
      exact h i.val i.isLt hle
    · rfl
  simp only [fill?, hplace]
  exact Vector.ofFnM_pure

end GameBoy.Width
