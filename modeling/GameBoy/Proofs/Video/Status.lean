import GameBoy.Proofs.Bits
import GameBoy.Proofs.Store
import GameBoy.Video.Ppu

/-!
# The status register and the interrupts of the video unit

The video unit writes three cells: the line, status and interrupt request registers.  The status
register is shared: its two lowest bits show the mode, its third bit the coincidence of the line
with the compare register, and software owns the others, which enable the sources of the status
interrupt.

The first half of this file says which cells and bits each operation leaves alone.  The second
half says that no operation looks at the mode bits, so that a mode written in the middle of a run
is forgotten when the next one is written: `storeMode_storeMode` and the lemmas named
`..._storeMode`.
-/

namespace GameBoy

/-! ## The bits of the status register -/

/-- The coincidence bit alone. -/
theorem bit_coincidence (i : Nat) : bit 0x04 i = decide (i = 2) := by
  have hpow : bit 0x04 i = decide (2 = i) := Nat.testBit_two_pow (n := 2)
  rw [hpow]
  simp only [eq_comm]

theorem bit_and_coincidence (status : UInt8) (i : Nat) :
    bit (status &&& 0xFB) i = (decide (i ≠ 2) && bit status i) := by
  rw [bit_and]
  rcases Nat.lt_or_ge i 8 with hi | hi
  · rw [(by decide : ∀ i < 8, bit 0xFB i = decide (i ≠ 2)) i hi, Bool.and_comm]
  · simp [bit_of_le _ hi]

theorem bit_and_mode (status : UInt8) (i : Nat) :
    bit (status &&& 0xFC) i = (decide (2 ≤ i) && bit status i) := by
  rw [bit_and]
  rcases Nat.lt_or_ge i 8 with hi | hi
  · rw [(by decide : ∀ i < 8, bit 0xFC i = decide (2 ≤ i)) i hi, Bool.and_comm]
  · simp [bit_of_le _ hi]

namespace Ppu

open Memory (SameOutside)

/-! ## The cells that are written -/

/-- The cells that the video unit writes. -/
def videoCells : List UInt16 := [Address.line, Address.lcdStatus, Address.interruptRequest]

theorem sameOutside_request (memory : Memory) (source : Interrupt) :
    SameOutside [Address.interruptRequest] memory (memory.request source).value :=
  .store memory (by decide) _

theorem sameOutside_alert (memory : Memory) (statusBit : Nat) :
    SameOutside [Address.interruptRequest] memory (alert memory statusBit).value := by
  unfold alert
  split
  · exact sameOutside_request memory .lcdStat
  · exact .refl memory

theorem sameOutside_storeMode (memory : Memory) (mode : Mode) :
    SameOutside [Address.lcdStatus] memory (storeMode memory mode) :=
  .store memory (by decide) _

theorem sameOutside_compareLine (memory : Memory) (line : UInt8) :
    SameOutside [Address.lcdStatus, Address.interruptRequest] memory
      (compareLine memory line).value := by
  unfold compareLine
  dsimp only
  split
  · exact (SameOutside.store memory (by decide) _).trans ((sameOutside_alert _ 6).mono (by decide))
  · exact .store memory (by decide) _

theorem sameOutside_announceVblank (memory : Memory) (line : UInt8) :
    SameOutside [Address.interruptRequest] memory (announceVblank memory line).value := by
  unfold announceVblank
  split
  · exact (sameOutside_request memory .vblank).trans (sameOutside_alert _ 4)
  · exact .refl memory

/-! ## Writing the mode -/

theorem bit_number (mode : Mode) {i : Nat} (h : 2 ≤ i) : bit mode.number i = false := by
  have hlt : mode.number.toNat < 2 ^ 2 := by cases mode <;> decide
  exact Nat.testBit_lt_two_pow (Nat.lt_of_lt_of_le hlt (Nat.pow_le_pow_right (by decide) h))

theorem lcdStatus_storeMode (memory : Memory) (mode : Mode) :
    (storeMode memory mode).lcdStatus = memory.lcdStatus &&& 0xFC ||| mode.number :=
  memory.read_store_self _ _

theorem bit_storeMode (memory : Memory) (mode : Mode) {i : Nat} (h : 2 ≤ i) :
    bit (storeMode memory mode).lcdStatus i = bit memory.lcdStatus i := by
  rw [lcdStatus_storeMode, bit_or, bit_and_mode, bit_number mode h]
  simp [h]

theorem read_storeMode (memory : Memory) (mode : Mode) {address : UInt16}
    (h : Address.lcdStatus ≠ address) :
    (storeMode memory mode).read address = memory.read address :=
  memory.read_store_of_ne h _

/-- The mode bits do not survive the next mode: memories that agree elsewhere become equal. -/
theorem storeMode_congr {first second : Memory} (mode : Mode)
    (hstatus : ∀ i, 2 ≤ i → bit first.lcdStatus i = bit second.lcdStatus i)
    (h : ∀ address, Address.lcdStatus ≠ address → first.read address = second.read address) :
    storeMode first mode = storeMode second mode := by
  apply Memory.ext
  intro address
  by_cases haddress : Address.lcdStatus = address
  · subst haddress
    -- only the bits above the mode are left to compare
    have hmasked : first.lcdStatus &&& 0xFC = second.lcdStatus &&& 0xFC := by
      apply bit_ext
      intro i _
      rw [bit_and_mode, bit_and_mode]
      by_cases hi : 2 ≤ i
      · rw [hstatus i hi]
      · simp [hi]
    show (storeMode first mode).lcdStatus = (storeMode second mode).lcdStatus
    rw [lcdStatus_storeMode, lcdStatus_storeMode, hmasked]
  · rw [read_storeMode _ _ haddress, read_storeMode _ _ haddress, h address haddress]

theorem storeMode_storeMode (memory : Memory) (first second : Mode) :
    storeMode (storeMode memory first) second = storeMode memory second :=
  storeMode_congr second (fun _ hi => bit_storeMode memory first hi)
    fun _ h => read_storeMode memory first h

/-! ## Nothing looks at the mode bits -/

theorem storeMode_store (memory : Memory) (mode : Mode) {address : UInt16}
    (h : Address.lcdStatus ≠ address) (value : UInt8) :
    storeMode (memory.store address value) mode = (storeMode memory mode).store address value := by
  unfold storeMode Memory.lcdStatus
  rw [Memory.read_store_of_ne _ h.symm, Memory.store_comm _ h]

theorem request_storeMode (memory : Memory) (mode : Mode) (source : Interrupt) :
    (storeMode memory mode).request source = (storeMode · mode) <$> memory.request source := by
  have hread : (storeMode memory mode).read Address.interruptRequest =
      memory.read Address.interruptRequest := read_storeMode memory mode (by decide)
  apply Logged.ext
  · simp only [Memory.request, Logged.value_map, hread]
    exact (storeMode_store memory mode (by decide) _).symm
  · rfl

theorem alert_storeMode (memory : Memory) (mode : Mode) {statusBit : Nat} (h : 2 ≤ statusBit) :
    alert (storeMode memory mode) statusBit = (storeMode · mode) <$> alert memory statusBit := by
  unfold alert
  rw [bit_storeMode memory mode h]
  split
  · exact request_storeMode memory mode .lcdStat
  · rfl

theorem announceVblank_storeMode (memory : Memory) (mode : Mode) (line : UInt8) :
    announceVblank (storeMode memory mode) line =
      (storeMode · mode) <$> announceVblank memory line := by
  unfold announceVblank
  split
  · rw [request_storeMode, bind_map_left, map_bind]
    congr
    funext requested
    exact alert_storeMode requested mode (by decide)
  · rfl

/-- Writing the status register after a mode keeps the mode if the byte written does. -/
theorem store_storeMode (memory : Memory) (mode : Mode) (value : UInt8) :
    (storeMode memory mode).store Address.lcdStatus (value &&& 0xFC ||| mode.number) =
      storeMode (memory.store Address.lcdStatus value) mode := by
  unfold storeMode Memory.lcdStatus
  rw [Memory.read_store_self, Memory.store_store, Memory.store_store]

theorem compareLine_storeMode (memory : Memory) (mode : Mode) (line : UInt8) :
    compareLine (storeMode memory mode) line = (storeMode · mode) <$> compareLine memory line := by
  -- the coincidence bit is set and cleared without touching the two bits of the mode
  have hset : (storeMode memory mode).lcdStatus ||| 0x04 =
      (memory.lcdStatus ||| 0x04) &&& 0xFC ||| mode.number := by
    apply bit_ext
    intro i _
    rw [lcdStatus_storeMode, bit_or, bit_or, bit_or, bit_and_mode, bit_and_mode, bit_or,
      bit_coincidence]
    by_cases hi : i = 2 <;> simp [hi]
  have hclear : (storeMode memory mode).lcdStatus &&& 0xFB =
      (memory.lcdStatus &&& 0xFB) &&& 0xFC ||| mode.number := by
    apply bit_ext
    intro i _
    rw [lcdStatus_storeMode, bit_and_coincidence, bit_or, bit_or, bit_and_mode, bit_and_mode,
      bit_and_coincidence]
    by_cases hi : i = 2 <;> simp [hi, bit_number]
  unfold compareLine
  dsimp only
  rw [read_storeMode memory mode (by decide), hset, hclear, store_storeMode, store_storeMode]
  split
  · exact alert_storeMode _ mode (by decide)
  · rfl

end Ppu
end GameBoy
