import GameBoy.Address
import GameBoy.Word

/-!
# The address space as a store

`Memory` is a flat store of 65536 bytes.  `read` is its view: `read_store` says what a store does
to it, `ext` that nothing else tells two memories apart.  What a register does when software
writes to it is the business of the bus; here every cell is plain.
-/

namespace GameBoy

/-- A byte on its way to an address. -/
structure Write where
  address : UInt16
  value : UInt8
  deriving DecidableEq, Repr

/-- The two writes of a word, low byte first. -/
def Write.word (address value : UInt16) : List Write :=
  [⟨address, Word.low value⟩, ⟨address + 1, Word.high value⟩]

structure Memory where
  cells : Vector UInt8 65536

namespace Memory

def read (memory : Memory) (address : UInt16) : UInt8 :=
  memory.cells.get ⟨address.toNat, address.toNat_lt⟩

def store (memory : Memory) (address : UInt16) (value : UInt8) : Memory :=
  { cells := memory.cells.set address.toNat value address.toNat_lt }

/-- A memory of zeros. -/
def blank : Memory := { cells := .replicate 65536 0 }

/-! ## The view -/

@[simp] theorem read_blank (address : UInt16) : blank.read address = 0 := by
  simp [blank, read, Vector.get]

private theorem get_set {n : Nat} (cells : Vector UInt8 n) (i : Nat) (h : i < n) (value : UInt8)
    (j : Fin n) : (cells.set i value h).get j = if i = j.val then value else cells.get j := by
  change (cells.set i value h)[j.val] = if i = j.val then value else cells[j.val]
  rw [Vector.getElem_set]

theorem read_store (memory : Memory) (address other : UInt16) (value : UInt8) :
    (memory.store address value).read other =
      if address = other then value else memory.read other := by
  have hiff : address.toNat = other.toNat ↔ address = other := UInt16.toNat_inj
  simp only [read, store, get_set, hiff]

@[ext] theorem ext {first second : Memory}
    (h : ∀ address, first.read address = second.read address) : first = second := by
  obtain ⟨first⟩ := first
  obtain ⟨second⟩ := second
  congr
  apply Vector.ext
  intro i hi
  have hread := h (UInt16.ofNat i)
  have hto : (UInt16.ofNat i).toNat = i := UInt16.toNat_ofNat_of_lt hi
  simp only [read, hto] at hread
  exact hread

/-! ## Words and runs of bytes -/

/-- The word at an address, low byte first. -/
def readWord (memory : Memory) (address : UInt16) : UInt16 :=
  Word.ofBytes (memory.read address) (memory.read (address + 1))

/-- Stores bytes at successive addresses, wrapping around at the end. -/
def storeBytes (memory : Memory) (address : UInt16) : List UInt8 → Memory
  | [] => memory
  | byte :: rest => (memory.store address byte).storeBytes (address + 1) rest

/-- Puts an image at the bottom of memory; what does not fit is dropped. -/
def load (memory : Memory) (image : ByteArray) : Memory where
  cells := .ofFn fun i => if h : i.val < image.size then image[i.val] else memory.cells.get i

/-- The interrupt sources that are both requested and enabled. -/
def pending (memory : Memory) : UInt8 :=
  memory.read Address.interruptRequest &&& memory.read Address.interruptEnable &&& 0x1F

end Memory

end GameBoy
