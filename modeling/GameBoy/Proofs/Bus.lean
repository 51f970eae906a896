import GameBoy.Proofs.Bus.Transfer

/-!
# Which cells the bus changes

A write reaches the cell of its address and, at two registers, cells of its own choice: the joypad
register is composed from the keys, and the object transfer copies into the object attribute
table.  All other cells are `Plain`.  What they hold after the writes of a processor step is
decided by the writes to them alone; the divider, which is plain, is cleared by every write.
-/

namespace GameBoy.Bus

open Memory (SameOutside)

/-- A cell that changes only when it is written to. -/
structure Plain (address : UInt16) : Prop where
  ne_joypad : Address.joypad ≠ address
  outside_objects : ¬ (0xFE00 ≤ address.toNat ∧ address.toNat < 0xFEA0)

/-- The registers above the joypad's are plain. -/
theorem Plain.of_lt {address : UInt16} (h : 0xFF00 < address.toNat) : Plain address := by
  refine ⟨?_, by omega⟩
  rintro rfl
  exact absurd h (by decide)

/-! ## One write -/

/-- The write that starts a transmission through the serial link. -/
def startSending : Write := ⟨Address.serialControl, serialStart⟩

/-- The byte that the cell of a write takes. -/
def taken (bus : Bus) (w : Write) : UInt8 :=
  if w.address = Address.joypad then (bus.joypad.writeSelect w.value).register
  else if w.address = Address.divider then 0
  else w.value

theorem taken_of_ne (bus : Bus) {w : Write} (hjoypad : w.address ≠ Address.joypad)
    (hdivider : w.address ≠ Address.divider) : bus.taken w = w.value := by
  rw [taken, if_neg hjoypad, if_neg hdivider]

/-- A write part by part.  It always reaches the cell of its address, and a transfer follows. -/
theorem value_write (bus : Bus) (w : Write) :
    (bus.write w).value =
      { memory :=
          if w.address = Address.objectTransfer then
            transferObjects (bus.memory.store w.address (bus.taken w)) w.value
          else bus.memory.store w.address (bus.taken w)
        joypad :=
          if w.address = Address.joypad then bus.joypad.writeSelect w.value else bus.joypad
        dividerReset := bus.dividerReset || decide (w.address = Address.divider)
        serial :=
          if w = startSending then bus.serial.push (bus.memory.read Address.serialData)
          else bus.serial } := by
  obtain ⟨target, value⟩ := w
  unfold write taken startSending
  dsimp only
  -- one case for each address that does more than store a byte
  by_cases hjoypad : target = Address.joypad
  · simp +decide [hjoypad, refreshJoypad]
  · by_cases hdivider : target = Address.divider
    · simp +decide [hdivider]
    · by_cases hserial : target = Address.serialControl ∧ value = serialStart
      · simp +decide [hserial]
      · by_cases htransfer : target = Address.objectTransfer
        · simp +decide [htransfer]
        · simp [hjoypad, hdivider, hserial, htransfer]

/-- Outside the object attribute table a cell changes only when it is written to. -/
theorem read_write_of_outside (bus : Bus) (w : Write) {address : UInt16}
    (h : ¬ (0xFE00 ≤ address.toNat ∧ address.toNat < 0xFEA0)) :
    (bus.write w).value.memory.read address =
      if w.address = address then bus.taken w else bus.memory.read address := by
  rw [value_write]
  dsimp only
  split
  · rw [read_transferObjects_of_outside _ _ h, Memory.read_store]
  · exact Memory.read_store ..

/-- A plain cell holds what was written to it last, except for the divider. -/
theorem read_write (bus : Bus) (w : Write) {address : UInt16} (h : Plain address) :
    (bus.write w).value.memory.read address =
      if w.address = address then (if address = Address.divider then 0 else w.value)
      else bus.memory.read address := by
  rw [read_write_of_outside bus w h.outside_objects]
  split
  · rename_i haddress
    rw [taken, haddress, if_neg h.ne_joypad.symm]
  · rfl

theorem serial_write (bus : Bus) (w : Write) :
    (bus.write w).value.serial =
      if w = startSending then bus.serial.push (bus.memory.read Address.serialData)
      else bus.serial := by
  rw [value_write]

theorem dividerReset_write (bus : Bus) (w : Write) :
    (bus.write w).value.dividerReset =
      (bus.dividerReset || decide (w.address = Address.divider)) := by
  rw [value_write]

/-! ## The writes of a step -/

variable (bus : Bus) (writes : List Write)

theorem read_writeAll_of_forall_ne {address : UInt16} (h : Plain address)
    (hwrites : ∀ w ∈ writes, w.address ≠ address) :
    (bus.writeAll writes).value.memory.read address = bus.memory.read address := by
  induction writes generalizing bus with
  | nil => rfl
  | cons first rest ih =>
      rw [writeAll, Logged.value_bind, ih _ fun w hw => hwrites w (List.mem_cons_of_mem first hw),
        read_write _ _ h, if_neg (hwrites first List.mem_cons_self)]

/-- What a cell holds after writes that it takes as they are, given what it held before. -/
def latest (address : UInt16) (old : UInt8) (writes : List Write) : UInt8 :=
  writes.foldl (fun byte w => if w.address = address then w.value else byte) old

/-- Memory takes all writes as they are. -/
theorem read_foldl_store (memory : Memory) (writes : List Write) (address : UInt16) :
    (writes.foldl (fun memory w => memory.store w.address w.value) memory).read address =
      latest address (memory.read address) writes := by
  induction writes generalizing memory with
  | nil => rfl
  | cons first rest ih =>
      rw [List.foldl_cons, ih, Memory.read_store]
      rfl

/-- A plain cell other than the divider holds the last byte that was written to it. -/
theorem read_writeAll {address : UInt16} (h : Plain address)
    (hdivider : address ≠ Address.divider) :
    (bus.writeAll writes).value.memory.read address =
      latest address (bus.memory.read address) writes := by
  induction writes generalizing bus with
  | nil => rfl
  | cons first rest ih =>
      rw [writeAll, Logged.value_bind, ih, read_write _ _ h, if_neg hdivider]
      rfl

theorem dividerReset_writeAll :
    (bus.writeAll writes).value.dividerReset =
      (bus.dividerReset || writes.any (·.address = Address.divider)) := by
  induction writes generalizing bus with
  | nil => exact (Bool.or_false _).symm
  | cons first rest ih =>
      rw [writeAll, Logged.value_bind, ih, dividerReset_write, List.any_cons, Bool.or_assoc]

theorem plain_divider : Plain Address.divider := .of_lt (by decide)

/-- A write to the divider clears it, and later writes do not count it up again. -/
theorem divider_writeAll :
    (bus.writeAll writes).value.memory.read Address.divider =
      if writes.any (·.address = Address.divider) then 0
      else bus.memory.read Address.divider := by
  induction writes generalizing bus with
  | nil => rfl
  | cons first rest ih =>
      rw [writeAll, Logged.value_bind, ih, read_write _ _ plain_divider, List.any_cons]
      by_cases hfirst : first.address = Address.divider
      · simp [hfirst]
      · simp [hfirst]

/-! ## Keys -/

variable (key : Key)

/-- Memory after a press, before the joypad register is brought up to date. -/
def alertedMemory : Memory :=
  if bus.joypad.pressAlerts key then (bus.memory.request .joypad).value else bus.memory

theorem value_press :
    (bus.press key).value =
      refreshJoypad { bus with
        memory := bus.alertedMemory key
        joypad := bus.joypad.press key } := by
  unfold press alertedMemory
  dsimp only
  split <;> rfl

theorem sameOutside_press :
    SameOutside [Address.joypad, Address.interruptRequest] bus.memory
      (bus.press key).value.memory := by
  have halerted : SameOutside [Address.joypad, Address.interruptRequest] bus.memory
      (bus.alertedMemory key) := by
    unfold alertedMemory
    split
    · exact .store bus.memory (by decide) _
    · exact .refl bus.memory
  rw [value_press]
  exact halerted.trans (.store _ (by decide) _)

theorem sameOutside_release :
    SameOutside [Address.joypad] bus.memory (bus.release key).memory :=
  .store bus.memory (by decide) _

theorem dividerReset_press : (bus.press key).value.dividerReset = bus.dividerReset := by
  rw [value_press]
  rfl

end GameBoy.Bus
