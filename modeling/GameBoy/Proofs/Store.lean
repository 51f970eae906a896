import GameBoy.Memory

/-!
# Stores and what they leave alone

Laws of `Memory.store`, all through the view `Memory.read`.  `SameOutside cells` relates a memory
to a later one in which nothing but the given cells may have changed; it is how the timer and the
video unit are kept apart from the rest of memory.
-/

namespace GameBoy.Memory

/-! ## Stores -/

theorem read_store_self (memory : Memory) (address : UInt16) (value : UInt8) :
    (memory.store address value).read address = value := by
  rw [read_store, if_pos rfl]

theorem read_store_of_ne (memory : Memory) {address other : UInt16} (h : address ≠ other)
    (value : UInt8) : (memory.store address value).read other = memory.read other := by
  rw [read_store, if_neg h]

theorem store_store (memory : Memory) (address : UInt16) (first second : UInt8) :
    (memory.store address first).store address second = memory.store address second := by
  apply Memory.ext
  intro other
  simp only [read_store]
  split <;> rfl

theorem store_comm (memory : Memory) {address other : UInt16} (h : address ≠ other)
    (first second : UInt8) :
    (memory.store address first).store other second =
      (memory.store other second).store address first := by
  apply Memory.ext
  intro cell
  simp only [read_store]
  by_cases hfirst : address = cell
  · rw [if_pos hfirst, if_pos hfirst, if_neg (fun hsecond => h (hfirst.trans hsecond.symm))]
  · rw [if_neg hfirst, if_neg hfirst]

/-! ## Images -/

theorem read_load (memory : Memory) (image : ByteArray) (address : UInt16) :
    (memory.load image).read address =
      if h : address.toNat < image.size then image[address.toNat] else memory.read address := by
  have hlt := address.toNat_lt
  show (memory.load image).cells[address.toNat] = _
  exact Vector.getElem_ofFn _

theorem read_load_of_lt (memory : Memory) {image : ByteArray} {address : UInt16}
    (h : address.toNat < image.size) : (memory.load image).read address = image[address.toNat] := by
  rw [read_load, dif_pos h]

theorem read_load_of_le (memory : Memory) {image : ByteArray} {address : UInt16}
    (h : image.size ≤ address.toNat) :
    (memory.load image).read address = memory.read address := by
  rw [read_load, dif_neg (Nat.not_lt.mpr h)]

/-- An image may begin with a page of zeros, so that its code is at the entry point. -/
theorem read_load_code (memory : Memory) {code : Array UInt8} {address : UInt16} {i : Nat}
    (hi : i < code.size) (haddress : address.toNat = 256 + i) :
    (memory.load ⟨Array.replicate 256 0 ++ code⟩).read address = code[i] := by
  -- the code stands behind the blank first page
  have hsize : address.toNat < (⟨Array.replicate 256 0 ++ code⟩ : ByteArray).size := by
    simp only [ByteArray.size, Array.size_append, Array.size_replicate]
    omega
  rw [read_load_of_lt _ hsize]
  simp only [ByteArray.getElem_eq_getElem_data, haddress]
  rw [Array.getElem_append_right (by simp)]
  simp

/-! ## Frames -/

/-- The second memory differs from the first in the given cells at most. -/
def SameOutside (cells : List UInt16) (first second : Memory) : Prop :=
  ∀ address, address ∉ cells → second.read address = first.read address

namespace SameOutside

variable {cells : List UInt16} {first second third : Memory}

protected theorem refl (memory : Memory) : SameOutside cells memory memory :=
  fun _ _ => rfl

protected theorem trans (h : SameOutside cells first second) (h' : SameOutside cells second third) :
    SameOutside cells first third :=
  fun address haddress => (h' address haddress).trans (h address haddress)

protected theorem mono {larger : List UInt16} (h : SameOutside cells first second)
    (hsubset : cells ⊆ larger) : SameOutside larger first second :=
  fun address haddress => h address fun hmem => haddress (hsubset hmem)

protected theorem store (memory : Memory) {address : UInt16} (h : address ∈ cells)
    (value : UInt8) : SameOutside cells memory (memory.store address value) := by
  intro other hother
  have hne : address ≠ other := fun heq => hother (heq ▸ h)
  exact memory.read_store_of_ne hne value

end SameOutside

end GameBoy.Memory
