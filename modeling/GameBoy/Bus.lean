import GameBoy.Joypad.Basic
import GameBoy.Journal.Logged

/-!
# The bus

A write on the bus reaches the cell of its address, except at four registers: the joypad register
keeps only its select bits, a write to the divider clears it and raises a latch for the timer,
the serial control register sends a byte, and the object transfer register copies a page into the
object attribute table.  Reads have no side effect, so they go to memory directly.
-/

namespace GameBoy

/-- Sets the request bit of an interrupt source and leaves the other bits alone. -/
def Memory.request (memory : Memory) (source : Interrupt) : Logged Memory where
  value :=
    let requests := memory.read Address.interruptRequest
    memory.store Address.interruptRequest (requests ||| source.mask)
  journal := #[.requested source]

structure Bus where
  memory : Memory
  joypad : Joypad
  /-- Whether the divider was written since the timer last looked. -/
  dividerReset : Bool
  /-- The bytes sent through the serial link and not yet taken, oldest first. -/
  serial : Array UInt8

namespace Bus

/-! ## Registers with side effects -/

/-- Brings the joypad register up to date. -/
def refreshJoypad (bus : Bus) : Bus :=
  { bus with memory := bus.memory.store Address.joypad bus.joypad.register }

/-- Copies a page into the object attribute table, one byte after the other. -/
def transferObjects (memory : Memory) (page : UInt8) : Memory :=
  (List.range Address.objectBytes).foldl (fun memory i =>
    let byte := memory.read (Word.ofBytes 0 page + UInt16.ofNat i)
    memory.store (Address.objects + UInt16.ofNat i) byte) memory

/-- The byte that starts a transfer when it is written to the serial control register. -/
def serialStart : UInt8 := 0x81

def write (bus : Bus) (write : Write) : Logged Bus :=
  let ⟨address, value⟩ := write
  if address = Address.joypad then
    { value := { bus with joypad := bus.joypad.writeSelect value }.refreshJoypad
      journal := #[.joypadSelect write] }
  else if address = Address.divider then
    { value := { bus with memory := bus.memory.store address 0, dividerReset := true }
      journal := #[.dividerWrite write] }
  else if address = Address.serialControl ∧ value = serialStart then
    let byte := bus.memory.read Address.serialData
    { value :=
        { bus with memory := bus.memory.store address value, serial := bus.serial.push byte }
      journal := #[.serialSent write byte] }
  else if address = Address.objectTransfer then
    { value :=
        { bus with memory := transferObjects (bus.memory.store address value) value }
      journal := #[.objectTransfer write] }
  else
    pure { bus with memory := bus.memory.store address value }

/-- Performs writes in order. -/
def writeAll (bus : Bus) : List Write → Logged Bus
  | [] => pure bus
  | first :: rest => bus.write first >>= fun bus => bus.writeAll rest

/-! ## Power-on -/

/-- The registers as the boot program leaves them; all other cells are zero. -/
def bootRegisters : List Write :=
  [⟨Address.serialControl, 0x7E⟩, ⟨Address.divider, 0xAB⟩, ⟨Address.timerControl, 0xF8⟩,
    ⟨Address.interruptRequest, 0xE1⟩, ⟨Address.lcdControl, 0x91⟩, ⟨Address.lcdStatus, 0x85⟩,
    ⟨Address.objectTransfer, 0xFF⟩, ⟨Address.backgroundPalette, 0xFC⟩,
    ⟨Address.objectPalette0, 0xFF⟩, ⟨Address.objectPalette1, 0xFF⟩]

/-- A bus after power-on, with both key groups selected. -/
def powerOn : Logged Bus :=
  let memory := bootRegisters.foldl (fun memory w => memory.store w.address w.value) .blank
  let bus : Bus := { memory, joypad := .idle, dividerReset := false, serial := #[] }
  bus.write ⟨Address.joypad, 0x00⟩

/-- Puts an image at the bottom of memory. -/
def load (bus : Bus) (image : ByteArray) : Logged Bus where
  value := { bus with memory := bus.memory.load image }
  journal := #[.imageLoaded image.size]

/-! ## Keys -/

def request (bus : Bus) (source : Interrupt) : Logged Bus :=
  match bus with
  | ⟨memory, joypad, dividerReset, serial⟩ => do
    let memory ← memory.request source
    pure ⟨memory, joypad, dividerReset, serial⟩

/-- Presses a key, and requests an interrupt if its line falls while its group is selected. -/
def press (bus : Bus) (key : Key) : Logged Bus := do
  Logged.note (.pressed key)
  let pressed := { bus with joypad := bus.joypad.press key }
  let alerted ← if bus.joypad.pressAlerts key then pressed.request .joypad else pure pressed
  pure alerted.refreshJoypad

def release (bus : Bus) (key : Key) : Bus :=
  { bus with joypad := bus.joypad.release key }.refreshJoypad

/-! ## The host's side -/

/-- Takes the bytes sent through the serial link. -/
def takeSerial (bus : Bus) : Array UInt8 × Bus :=
  (bus.serial, { bus with serial := #[] })

/-- Takes the divider latch. -/
def takeDividerReset (bus : Bus) : Bool × Bus :=
  (bus.dividerReset, { bus with dividerReset := false })

end Bus

end GameBoy
