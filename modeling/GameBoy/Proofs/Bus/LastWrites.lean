import GameBoy.Proofs.Bus

/-!
# What is left of a sequence of writes

The bus is a store in which the last write to a cell wins, but for the registers that have side
effects.  `LastWritten` describes the bus after a sequence of writes by the writes, each with the
bus that it found: a cell of the object attribute table holds what was written to it last, be it
directly or by a transfer, the divider is cleared by whatever is written to it, and each start of
the serial link sends the byte that its data register held by then.  `lastWritten_writeAll` is the
main statement; only the joypad register, which is composed from the keys, is left out.
-/

namespace GameBoy.Bus

/-! ## Looking back -/

/-- The last of some writes to an address. -/
def lastTo? (address : UInt16) (writes : List Write) : Option Write :=
  writes.reverse.find? (·.address == address)

/-- Some writes, each with the bus that it found. -/
def moments (bus : Bus) : List Write → List (Bus × Write)
  | [] => []
  | first :: rest => (bus, first) :: (bus.write first).value.moments rest

/-- What a cell holds after writes that it takes as they are is the last byte written to it. -/
theorem latest_eq (address : UInt16) (old : UInt8) (writes : List Write) :
    latest address old writes = ((lastTo? address writes).map (·.value)).getD old := by
  -- by induction on the writes: a later one to the address hides the first
  induction writes generalizing old with
  | nil => rfl
  | cons first rest ih =>
      have hlast : lastTo? address (first :: rest) =
          (lastTo? address rest).or ([first].find? (·.address == address)) := by
        rw [lastTo?, List.reverse_cons, List.find?_append]
        rfl
      rw [latest, List.foldl_cons, ← latest, ih, hlast]
      cases lastTo? address rest with
      | some last => rfl
      | none => by_cases hfirst : first.address = address <;> simp [hfirst]

/-! ## The object attribute table -/

/-- Whether a write changes a byte of the object attribute table, by itself or by a transfer. -/
def reachesObject (i : Nat) (w : Write) : Bool :=
  w.address == objectCell i || w.address == Address.objectTransfer

/-- The byte that such a write brings, given the bus that it finds.  A transfer finds its own page
number in the transfer register already. -/
def broughtObject (i : Nat) (bus : Bus) (w : Write) : UInt8 :=
  if w.address = Address.objectTransfer then
    (bus.memory.store Address.objectTransfer w.value).read (sourceCell w.value i)
  else
    w.value

/-- No register lies in the object attribute table. -/
theorem objectCell_ne {i : Nat} (hi : i < 160) {address : UInt16} (h : 0xFEA0 ≤ address.toNat) :
    address ≠ objectCell i := by
  rintro rfl
  rw [toNat_objectCell hi] at h
  omega

theorem read_write_object (bus : Bus) (w : Write) {i : Nat} (hi : i < 160) :
    (bus.write w).value.memory.read (objectCell i) =
      if reachesObject i w then broughtObject i bus w else bus.memory.read (objectCell i) := by
  rw [value_write]
  unfold reachesObject broughtObject
  dsimp only
  -- a transfer brings every object cell, any other write at most its own
  by_cases htransfer : w.address = Address.objectTransfer
  · have htaken : bus.taken w = w.value :=
      bus.taken_of_ne (by rw [htransfer]; decide) (by rw [htransfer]; decide)
    rw [if_pos htransfer, read_transferObjects_object _ _ hi, htaken, htransfer]
    simp
  · rw [if_neg htransfer, Memory.read_store]
    by_cases hcell : w.address = objectCell i
    · have htaken : bus.taken w = w.value :=
        bus.taken_of_ne (by rw [hcell]; exact (objectCell_ne hi (by decide)).symm)
          (by rw [hcell]; exact (objectCell_ne hi (by decide)).symm)
      rw [if_pos hcell, if_neg htransfer, htaken]
      simp [hcell]
    · simp [hcell, htransfer]

/-- A byte of the object attribute table is what the last write that reaches it brings. -/
theorem read_writeAll_object (bus : Bus) (writes : List Write) {i : Nat} (hi : i < 160) :
    (bus.writeAll writes).value.memory.read (objectCell i) =
      (((bus.moments writes).reverse.find? fun (_, w) => reachesObject i w).map
        fun (found, w) => broughtObject i found w).getD (bus.memory.read (objectCell i)) := by
  -- by induction on the writes, each with the bus that it finds
  induction writes generalizing bus with
  | nil => rfl
  | cons first rest ih =>
      rw [writeAll, Logged.value_bind, ih, read_write_object bus first hi, moments,
        List.reverse_cons, List.find?_append]
      generalize ((bus.write first).value.moments rest).reverse.find?
        (fun (_, w) => reachesObject i w) = later
      cases later with
      | some last => rfl
      | none => cases hfirst : reachesObject i first <;> simp [hfirst]

/-! ## The serial link -/

/-- The bytes that some writes send, each at its moment. -/
def sent (bus : Bus) (writes : List Write) : List UInt8 :=
  ((bus.moments writes).filter fun (_, w) => w == startSending).map
    fun (found, _) => found.memory.read Address.serialData

theorem serial_writeAll (bus : Bus) (writes : List Write) :
    (bus.writeAll writes).value.serial.toList = bus.serial.toList ++ bus.sent writes := by
  induction writes generalizing bus with
  | nil => exact (List.append_nil _).symm
  | cons first rest ih =>
      rw [writeAll, Logged.value_bind, ih, serial_write, sent, sent, moments]
      by_cases hfirst : first = startSending
      · simp [hfirst]
      · simp [hfirst]

/-! ## All registers -/

/-- What a bus holds after some writes. -/
structure LastWritten (bus : Bus) (writes : List Write) (after : Bus) : Prop where
  /-- A cell holds the last byte written to it, or the one from before. -/
  cell_eq : ∀ address, address ≠ Address.joypad → address ≠ Address.divider →
    ¬ (0xFE00 ≤ address.toNat ∧ address.toNat < 0xFEA0) →
      after.memory.read address =
        ((lastTo? address writes).map (·.value)).getD (bus.memory.read address)
  divider_eq_zero_iff : after.memory.read Address.divider = 0 ↔
    (∃ w ∈ writes, w.address = Address.divider) ∨ bus.memory.read Address.divider = 0
  divider_eq : (∀ w ∈ writes, w.address ≠ Address.divider) →
    after.memory.read Address.divider = bus.memory.read Address.divider
  /-- A byte of the object attribute table comes from the last write that reaches it. -/
  object_eq : ∀ i < 160, after.memory.read (objectCell i) =
    (((bus.moments writes).reverse.find? fun (_, w) => reachesObject i w).map
      fun (found, w) => broughtObject i found w).getD (bus.memory.read (objectCell i))
  latch_iff : after.dividerReset = true ↔
    bus.dividerReset = true ∨ ∃ w ∈ writes, w.address = Address.divider
  serial_eq : after.serial.toList = bus.serial.toList ++ bus.sent writes

/-- **Last writes.**  Whatever the bus holds and whatever is written to it, each cell is left with
the last byte that reaches it, the divider is zero once it has been written to, its latch is set
from then on, and the serial link has sent the bytes found by its starts. -/
theorem lastWritten_writeAll (bus : Bus) (writes : List Write) :
    LastWritten bus writes (bus.writeAll writes).value where
  cell_eq := by
    intro address hjoypad hdivider hobjects
    have hplain : Plain address := ⟨hjoypad.symm, hobjects⟩
    rw [read_writeAll bus writes hplain hdivider, latest_eq]
  divider_eq_zero_iff := by
    rw [divider_writeAll]
    by_cases hwritten : ∃ w ∈ writes, w.address = Address.divider
    · simp [hwritten]
    · simp [hwritten]
  divider_eq := by
    intro huntouched
    exact read_writeAll_of_forall_ne bus writes plain_divider huntouched
  object_eq := fun i hi => read_writeAll_object bus writes hi
  latch_iff := by
    rw [dividerReset_writeAll]
    simp
  serial_eq := serial_writeAll bus writes

end GameBoy.Bus
