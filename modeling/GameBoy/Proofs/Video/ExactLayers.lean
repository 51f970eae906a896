import GameBoy.Proofs.Video.Plane
import GameBoy.Proofs.Width

/-!
# Background and window in words of limited width

The conversion of a row computes with bytes, with words for addresses, with signed words for the
numbers of tiles, and with words of 64 bits for the columns of the window.  The functions here are
the conversion of the background and the window in these terms, operation for operation.  They read
memory through `Memory.look?`, which gives nothing but the cells that a picture may be made from,
and fail where a number would leave its range.

For all contents of memory they do not fail, and find the colours below the objects that the picture
is made with: `layers?_eq_some`.
-/

namespace GameBoy

open Width

/-! ## Colours -/

def colourNumber? (low high : UInt8) (position : Nat) : Option Nat := do
  let upper ← shiftRight? 8 high.toNat position
  let upper ← shiftLeft? 8 (upper &&& 1) 1
  let lower ← shiftRight? 8 low.toNat position
  some (upper ||| (lower &&& 1))

def shade? (palette : UInt8) (colour : Nat) : Option UInt8 := do
  let distance ← product? 8 colour 2
  let shifted ← shiftRight? 8 palette.toNat distance
  some (.ofNat (shifted &&& 3))

theorem colourNumber?_eq_some (low high : UInt8) {position : Nat} (h : position < 8) :
    colourNumber? low high position = some (colourNumber low high position) := by
  have hbit (byte : UInt8) : byte.toNat >>> position &&& 1 = (bit byte position).toNat := by
    rw [bit, Nat.toNat_testBit, Nat.shiftRight_eq_div_pow, Nat.and_one_is_mod]
  -- the two bits have no place in common, so joining them adds them
  have hjoin (upper lower : Bool) :
      upper.toNat <<< 1 % 2 ^ 8 ||| lower.toNat = 2 * upper.toNat + lower.toNat := by
    revert upper lower
    decide
  rw [colourNumber?, shiftRight?_eq_some h, shiftRight?_eq_some h]
  simp only [Option.bind_eq_bind, Option.bind_some, hbit, shiftLeft?_eq_some (by decide : 1 < 8),
    hjoin]
  rfl

theorem colourNumber_lt (low high : UInt8) (position : Nat) :
    colourNumber low high position < 4 := by
  have hupper := (bit high position).toNat_le
  have hlower := (bit low position).toNat_le
  unfold colourNumber
  omega

theorem shade?_eq_some (palette : UInt8) {colour : Nat} (h : colour < 4) :
    shade? palette colour = some (shade palette colour) := by
  have hproduct : colour * 2 < 2 ^ 8 := by omega
  have hdistance : colour * 2 < 8 := by omega
  rw [shade?, product?_eq_some hproduct]
  simp only [Option.bind_eq_bind, Option.bind_some, shiftRight?_eq_some hdistance]
  rw [Nat.and_two_pow_sub_one_eq_mod _ 2, Nat.mul_comm]
  rfl

/-! ## Reading -/

namespace Memory

/-- Reads a cell that a picture may be made from. -/
def look? (memory : Memory) (address : UInt16) : Option UInt8 :=
  if IsPictureCell address then some (memory.read address) else none

/-- Reads such a cell by its number. -/
def cell? (memory : Memory) (address : Nat) : Option UInt8 :=
  if address < 0x10000 then memory.look? (.ofNat address) else none

variable (memory : Memory)

theorem look?_eq_some {address : UInt16} (h : address ∈ pictureRegisters) :
    memory.look? address = some (memory.read address) :=
  if_pos (Or.inr (Or.inr h))

theorem cell?_eq_some {address : Nat}
    (h : (0x8000 ≤ address ∧ address < 0xA000) ∨ (0xFE00 ≤ address ∧ address < 0xFEA0)) :
    memory.cell? address = some (memory.cell address) := by
  have hlt : address < 0x10000 := by omega
  have htoNat : (UInt16.ofNat address).toNat = address := UInt16.toNat_ofNat_of_lt hlt
  have hcell : IsPictureCell (.ofNat address) := by
    unfold IsPictureCell
    rw [htoNat]
    omega
  rw [cell?, if_pos hlt, look?, if_pos hcell]
  rfl

end Memory

/-! ## Background and window -/

def LcdControl.tileAddress? (control tile : UInt8) : Option Nat :=
  if bit control 4 then do
    let distance ← product? 16 tile.toNat 16
    sum? 16 0x8000 distance
  else do
    let distance ← signed? (tile.toInt8.toInt * 16)
    some ((0x9000 + distance) % 0x10000).toNat

theorem LcdControl.tileAddress?_eq_some (control tile : UInt8) :
    tileAddress? control tile = some (tileAddress control tile) := by
  have htile := tile.toNat_lt
  unfold tileAddress? tileAddress
  cases bit control 4 with
  | true =>
      have hproduct : tile.toNat * 16 < 2 ^ 16 := by omega
      have hsum : 0x8000 + tile.toNat * 16 < 2 ^ 16 := by omega
      rw [if_pos rfl, product?_eq_some hproduct, Option.bind_eq_bind, Option.bind_some,
        sum?_eq_some hsum, Nat.mul_comm]
      rfl
  | false =>
      -- taken as signed, the number leads to either side of 0x9000, but not out of the word
      have hsigned : -128 ≤ tile.toInt8.toInt ∧ tile.toInt8.toInt < 128 ∧
          (if bit tile 7 then 0x8000 + 16 * tile.toNat else 0x9000 + 16 * tile.toNat : Nat) =
            0x9000 + tile.toInt8.toInt * 16 := by
        rw [Memory.toInt_toInt8, bit, Nat.testBit_eq_decide_div_mod_eq]
        simp only [decide_eq_true_eq]
        split <;> omega
      obtain ⟨hle, hlt, haddress⟩ := hsigned
      have hword : (0x9000 + tile.toInt8.toInt * 16) % 0x10000 =
          0x9000 + tile.toInt8.toInt * 16 := Int.emod_eq_of_lt (by omega) (by omega)
      rw [if_neg Bool.false_ne_true, signed?_eq_some (by omega), Option.bind_eq_bind,
        Option.bind_some, hword, ← haddress]
      rfl

namespace Memory

def planeColour? (memory : Memory) (control : UInt8) (map x y : Nat) : Option Nat := do
  let above ← product? 16 (y / 8) 32
  let index ← sum? 16 above (x / 8)
  let address ← sum? 16 map index
  let tile ← memory.cell? address
  let start ← LcdControl.tileAddress? control tile
  let distance ← product? 16 (y % 8) 2
  let row ← sum? 16 start distance
  let low ← memory.cell? row
  let next ← sum? 16 row 1
  let high ← memory.cell? next
  let position ← difference? 7 (x % 8)
  colourNumber? low high position

theorem planeColour?_eq_some (memory : Memory) {map x y : Nat} (hmap : map ∈ [0x9800, 0x9C00])
    (hx : x < 256) (hy : y < 256) :
    memory.planeColour? memory.lcdControl map x y = some (memory.planeColour map x y) := by
  have hmap : 0x9800 ≤ map ∧ map ≤ 0x9C00 := by
    simp only [List.mem_cons, List.not_mem_nil, or_false] at hmap
    omega
  have hplace : map + (y / 8 * 32 + x / 8) = map + y / 8 * 32 + x / 8 := by omega
  have hstart := LcdControl.le_tileAddress memory.lcdControl
    (memory.cell (map + y / 8 * 32 + x / 8))
  have hstart' := LcdControl.tileAddress_lt memory.lcdControl
    (memory.cell (map + y / 8 * 32 + x / 8))
  rw [planeColour?, product?_eq_some (by omega)]
  simp only [Option.bind_eq_bind, Option.bind_some]
  rw [sum?_eq_some (by omega), Option.bind_some, sum?_eq_some (by omega), Option.bind_some,
    cell?_eq_some memory (by omega), Option.bind_some, hplace, LcdControl.tileAddress?_eq_some,
    Option.bind_some, product?_eq_some (by omega), Option.bind_some, sum?_eq_some (by omega),
    Option.bind_some, cell?_eq_some memory (by omega), Option.bind_some, sum?_eq_some (by omega),
    Option.bind_some, cell?_eq_some memory (by omega), Option.bind_some,
    difference?_eq_some (by omega), Option.bind_some, colourNumber?_eq_some _ _ (by omega)]
  rfl

/-- The colour numbers of the background of a line. -/
def background? (memory : Memory) (control : UInt8) (line : Nat) :
    Option (Vector Nat Frame.width) := do
  let scrollX ← memory.look? Address.scrollX
  let scrollY ← memory.look? Address.scrollY
  let row := (line + scrollY.toNat) % 256
  fill? 0 (fun x =>
      memory.planeColour? control (LcdControl.backgroundMap control)
        ((x + scrollX.toNat) % 256) row)
    (.replicate Frame.width 0)

/-- The colour numbers of a line with the window over them, and the number of the window's line
afterwards. -/
def window? (memory : Memory) (control windowLine : UInt8) (line : Nat)
    (colours : Vector Nat Frame.width) : Option (Vector Nat Frame.width × UInt8) := do
  let windowY ← memory.look? Address.windowY
  let windowX ← memory.look? Address.windowX
  if LcdControl.windowEnabled control ∧ windowY.toNat ≤ line ∧ windowX ≤ 166 then
    let start := windowX.toNat - 7
    let colours ← fill? start (fun x => do
        let right ← sum? 64 x 7
        let column ← difference? right windowX.toNat
        memory.planeColour? control (LcdControl.windowMap control) (column % 256)
          windowLine.toNat)
      colours
    some (colours, if start < Frame.width then windowLine + 1 else windowLine)
  else
    some (colours, windowLine)

/-- The colour numbers below the objects of a line, and the number of the window's line
afterwards. -/
def layers? (memory : Memory) (control windowLine : UInt8) (line : Nat) :
    Option (Vector Nat Frame.width × UInt8) :=
  if LcdControl.backgroundEnabled control then do
    let colours ← memory.background? control line
    memory.window? control windowLine line colours
  else
    some (.replicate Frame.width 0, windowLine)

variable (memory : Memory) (windowLine : UInt8) (line : Nat)

theorem background?_eq_some :
    memory.background? memory.lcdControl line =
      some (.ofFn fun x => memory.backgroundColour line x) := by
  have hcolumns (x : Nat) (_ : x < Frame.width) (_ : 0 ≤ x) :
      memory.planeColour? memory.lcdControl (LcdControl.backgroundMap memory.lcdControl)
          ((x + (memory.read Address.scrollX).toNat) % 256)
          ((line + (memory.read Address.scrollY).toNat) % 256) =
        some (memory.backgroundColour line x) :=
    memory.planeColour?_eq_some (LcdControl.backgroundMap_mem _) (Nat.mod_lt _ (by decide))
      (Nat.mod_lt _ (by decide))
  rw [background?, look?_eq_some memory (by decide), look?_eq_some memory (by decide)]
  exact fill?_eq_some hcolumns _

theorem window?_eq_some (hlayers : LcdControl.backgroundEnabled memory.lcdControl = true) :
    memory.window? memory.lcdControl windowLine line
        (.ofFn fun x => memory.backgroundColour line x) =
      some (.ofFn fun x => memory.underlay windowLine line x,
        if memory.windowOn line then windowLine + 1 else windowLine) := by
  have hwidth : Frame.width = 160 := rfl
  rw [window?, look?_eq_some memory (by decide), look?_eq_some memory (by decide)]
  simp only [Option.bind_eq_bind, Option.bind_some]
  by_cases hon : LcdControl.windowEnabled memory.lcdControl ∧
      (memory.read Address.windowY).toNat ≤ line ∧ memory.read Address.windowX ≤ 166
  · obtain ⟨henabled, habove, hedge⟩ := hon
    have hwindow : memory.windowOn line = true := by
      simp only [windowOn, hlayers, henabled, habove, hedge, decide_true, Bool.and_self]
    have hedge' : (memory.read Address.windowX).toNat ≤ 166 := UInt8.le_iff_toNat_le.mp hedge
    -- the window begins on the screen, or at its left edge
    have hstart : (memory.read Address.windowX).toNat - 7 < Frame.width := by omega
    -- from there on the difference that gives its column is not negative
    have hcolumns (x : Nat) (hx : x < Frame.width)
        (hright : (memory.read Address.windowX).toNat - 7 ≤ x) :
        ((sum? 64 x 7).bind fun right =>
          (difference? right (memory.read Address.windowX).toNat).bind fun column =>
            memory.planeColour? memory.lcdControl (LcdControl.windowMap memory.lcdControl)
              (column % 256) windowLine.toNat) = some (memory.windowColour windowLine x) := by
      rw [sum?_eq_some (by omega), Option.bind_some, difference?_eq_some (by omega),
        Option.bind_some, Nat.mod_eq_of_lt (by omega)]
      exact memory.planeColour?_eq_some (LcdControl.windowMap_mem _) (by omega) windowLine.toNat_lt
    rw [if_pos ⟨henabled, habove, hedge⟩, fill?_eq_some hcolumns, Option.bind_some, if_pos hstart,
      hwindow, if_pos rfl]
    simp only [Vector.getElem_ofFn, underlay, hlayers, hwindow, if_true, Bool.true_and,
      decide_eq_true_eq, Nat.sub_le_iff_le_add]
  · have hwindow : memory.windowOn line = false := by
      rw [← Bool.not_eq_true, windowOn, hlayers]
      simpa [and_assoc] using hon
    rw [if_neg hon]
    simp only [underlay, hlayers, hwindow, if_true, Bool.false_and, Bool.false_eq_true, if_false]

theorem layers?_eq_some :
    memory.layers? memory.lcdControl windowLine line =
      some (.ofFn fun x => memory.underlay windowLine line x,
        if memory.windowOn line then windowLine + 1 else windowLine) := by
  unfold layers?
  cases hlayers : LcdControl.backgroundEnabled memory.lcdControl with
  | true =>
      rw [if_pos rfl, background?_eq_some, Option.bind_eq_bind, Option.bind_some,
        window?_eq_some memory windowLine line hlayers]
  | false =>
      have hwindow : memory.windowOn line = false := by
        simp only [windowOn, hlayers, Bool.false_and]
      -- without the layers every pixel has colour zero
      have hnone : (Vector.ofFn fun x : Fin Frame.width => memory.underlay windowLine line x.val) =
          .replicate Frame.width 0 := by
        apply Vector.ext
        intro x hx
        rw [Vector.getElem_ofFn, Vector.getElem_replicate, underlay, hlayers]
        rfl
      rw [if_neg Bool.false_ne_true, hwindow, if_neg Bool.false_ne_true, hnone]

end Memory

end GameBoy
