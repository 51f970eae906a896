/-!
# Addresses of the hardware registers

The registers of the joypad, the serial link, the timer, the interrupt controller and the video
unit, and the object attribute table.
-/

namespace GameBoy.Address

/-! ## Joypad and serial link -/

abbrev joypad : UInt16 := 0xFF00
abbrev serialData : UInt16 := 0xFF01
abbrev serialControl : UInt16 := 0xFF02

/-! ## Timer -/

abbrev divider : UInt16 := 0xFF04
abbrev timerCounter : UInt16 := 0xFF05
abbrev timerModulo : UInt16 := 0xFF06
abbrev timerControl : UInt16 := 0xFF07

/-! ## Interrupts -/

abbrev interruptRequest : UInt16 := 0xFF0F
abbrev interruptEnable : UInt16 := 0xFFFF

/-! ## Video -/

abbrev lcdControl : UInt16 := 0xFF40
abbrev lcdStatus : UInt16 := 0xFF41
abbrev scrollY : UInt16 := 0xFF42
abbrev scrollX : UInt16 := 0xFF43
abbrev line : UInt16 := 0xFF44
abbrev lineCompare : UInt16 := 0xFF45
abbrev objectTransfer : UInt16 := 0xFF46
abbrev backgroundPalette : UInt16 := 0xFF47
abbrev objectPalette0 : UInt16 := 0xFF48
abbrev objectPalette1 : UInt16 := 0xFF49
abbrev windowY : UInt16 := 0xFF4A
abbrev windowX : UInt16 := 0xFF4B

/-- The first cell of the object attribute table. -/
abbrev objects : UInt16 := 0xFE00

/-- The size of the object attribute table in bytes. -/
abbrev objectBytes : Nat := 160

end GameBoy.Address
