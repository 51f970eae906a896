import GameBoy.Proofs.Video.ExactObjects

/-!
# A row in words of limited width

The colours below the objects become shades, and the objects are painted over them.  After all of
them the first one with a colour has decided what shows at a place, `Memory.shade_coverAll`, as it
does in the picture, whatever objects have been painted after it.

The main statement is `Ppu.exact_drawRow`: for all contents of memory and all lines the conversion
in words of limited width does not fail, and its row is the row of the picture.
-/

namespace GameBoy

open Width

/-! ## The objects of a line, painted -/

namespace Memory

/-- Paints the objects over a row whose colours below them are known. -/
def paintSprites? (memory : Memory) (control : UInt8) (colours : Vector Nat Frame.width)
    (line : Nat) (row : Row) : Option Row := do
  let height := LcdControl.objectHeight control
  let sprites ← memory.chooseSprites? height line spritesPerLine (List.range 40)
  let sprites := sprites.mergeSort fun first second => first.x ≤ second.x
  let first ← memory.look? Address.objectPalette0
  let second ← memory.look? Address.objectPalette1
  let canvas ← sprites.foldlM (fun canvas sprite =>
      sprite.paint? memory height line colours
        (if sprite.usesSecondPalette then second else first) canvas)
    ⟨row, .replicate Frame.width false⟩
  some canvas.row

/-- The palette of a sprite. -/
def spritePalette (memory : Memory) (sprite : Sprite) : UInt8 :=
  if sprite.usesSecondPalette then memory.read Address.objectPalette1
  else memory.read Address.objectPalette0

/-- What a spot holds after sprites, one after another. -/
def coverAll (memory : Memory) (height line x under : Nat) (sprites : List Sprite) (spot : Spot) :
    Spot :=
  sprites.foldl (fun spot sprite => spot.cover sprite (memory.spritePalette sprite) under
    (sprite.colour memory height line x)) spot

variable (memory : Memory) {height line : Nat}

theorem foldlM_paint? (hheight : height ≤ 16) (colours : Vector Nat Frame.width)
    (sprites : List Sprite) (h : ∀ sprite ∈ sprites, sprite.covers height line = true)
    (canvas : Canvas) :
    ∃ painted, sprites.foldlM (fun canvas sprite =>
        sprite.paint? memory height line colours (memory.spritePalette sprite) canvas) canvas =
        some painted ∧
      ∀ x (hx : x < Frame.width), painted.spot x hx =
        memory.coverAll height line x colours[x] sprites (canvas.spot x hx) := by
  -- by induction on the objects, each of which covers what those before it have left
  induction sprites generalizing canvas with
  | nil => exact ⟨canvas, rfl, fun _ _ => rfl⟩
  | cons sprite sprites ih =>
      obtain ⟨first, hfirst, hspots⟩ := sprite.paint?_eq_some colours (memory.spritePalette sprite)
        memory hheight (h sprite List.mem_cons_self) canvas
      obtain ⟨painted, hpainted, hrest⟩ :=
        ih (fun other hother => h other (List.mem_cons_of_mem sprite hother)) first
      refine ⟨painted, ?_, fun x hx => ?_⟩
      · rw [List.foldlM_cons, hfirst]
        exact hpainted
      · rw [hrest x hx, hspots x hx]
        rfl

theorem shade_spritePalette (sprite : Sprite) (colour : Nat) :
    shade (memory.spritePalette sprite) colour = memory.spriteShade sprite colour := by
  rw [spritePalette, ← apply_ite memory.read]
  rfl

theorem coverAll_of_claimed (x under : Nat) (sprites : List Sprite) (spot : Spot)
    (h : spot.claimed = true) : memory.coverAll height line x under sprites spot = spot := by
  induction sprites with
  | nil => rfl
  | cons sprite sprites ih =>
      have hcover (colour : Nat) :
          spot.cover sprite (memory.spritePalette sprite) under colour = spot := by
        rw [Spot.cover, h, Bool.true_or, if_pos rfl]
      rw [coverAll, List.foldl_cons, hcover]
      exact ih

/-- Of the sprites with a colour at a place the first one decides what shows there. -/
theorem shade_coverAll (x under : Nat) (sprites : List Sprite) (underShade : UInt8) :
    (memory.coverAll height line x under sprites ⟨underShade, false⟩).shade =
      match sprites.find? fun sprite => sprite.colour memory height line x != 0 with
      | none => underShade
      | some sprite =>
        if sprite.isBehind && under != 0 then underShade
        else memory.spriteShade sprite (sprite.colour memory height line x) := by
  induction sprites with
  | nil => rfl
  | cons sprite sprites ih =>
      rw [coverAll, List.foldl_cons, List.find?_cons]
      cases hcolour : sprite.colour memory height line x != 0 with
      | false =>
          -- a transparent object leaves the pixel to the rest
          have hzero : sprite.colour memory height line x = 0 := bne_eq_false_iff_eq.mp hcolour
          rw [hzero, Spot.cover_zero]
          exact ih
      | true =>
          -- the first object with a colour claims the pixel, whether or not it is seen
          have hcover : Spot.cover sprite (memory.spritePalette sprite) under
              (sprite.colour memory height line x) ⟨underShade, false⟩ =
              if sprite.isBehind && under != 0 then ⟨underShade, true⟩
              else
                ⟨shade (memory.spritePalette sprite) (sprite.colour memory height line x),
                  true⟩ := by
            rw [Spot.cover, Bool.false_or, if_neg (by simpa using hcolour)]
          dsimp only
          rw [hcover]
          by_cases hhidden : (sprite.isBehind && under != 0) = true
          · rw [if_pos hhidden, if_pos hhidden]
            exact congrArg Spot.shade (memory.coverAll_of_claimed x under sprites _ rfl)
          · rw [if_neg hhidden, if_neg hhidden, ← shade_spritePalette]
            exact congrArg Spot.shade (memory.coverAll_of_claimed x under sprites _ rfl)

/-- The objects painted over what lies below them make up the row. -/
theorem paintSprites?_eq_some (hobjects : LcdControl.objectsEnabled memory.lcdControl = true)
    (windowLine : UInt8) (line : Nat) :
    memory.paintSprites? memory.lcdControl (.ofFn fun x => memory.underlay windowLine line x) line
        (.ofFn fun x => shade (memory.read Address.backgroundPalette)
          (memory.underlay windowLine line x)) =
      some (memory.row windowLine line) := by
  have hheight := LcdControl.objectHeight_le memory.lcdControl
  -- only objects on the line are chosen, and sorting keeps them
  have hcovers (sprite : Sprite) (h : sprite ∈ memory.spritesOn line) :
      sprite.covers (LcdControl.objectHeight memory.lcdControl) line = true := by
    rw [spritesOn, if_pos hobjects, List.mem_mergeSort] at h
    exact (List.mem_filter.mp (List.mem_of_mem_take h)).2
  obtain ⟨painted, hpainted, hspots⟩ := memory.foldlM_paint? hheight
    (.ofFn fun x => memory.underlay windowLine line x) (memory.spritesOn line) hcovers
    ⟨.ofFn fun x => shade (memory.read Address.backgroundPalette)
      (memory.underlay windowLine line x), .replicate Frame.width false⟩
  have hrow : painted.row = memory.row windowLine line := by
    apply Vector.ext
    intro x hx
    have hspot := hspots x hx
    simp only [Canvas.spot, Vector.getElem_ofFn, Vector.getElem_replicate] at hspot
    have hshade : painted.row[x] = _ := congrArg Spot.shade hspot
    rw [hshade, shade_coverAll, getElem_row memory _ _ hx]
    rfl
  have hchosen : memory.chooseSprites? (LcdControl.objectHeight memory.lcdControl) line
      spritesPerLine (List.range 40) = some (memory.chosenSprites line) :=
    memory.chooseSprites?_eq_some hheight line _ _ fun i hi => List.mem_range.mp hi
  have hsorted : (memory.chosenSprites line).mergeSort (fun first second => first.x ≤ second.x) =
      memory.spritesOn line := by
    rw [spritesOn, if_pos hobjects]
  rw [paintSprites?, look?_eq_some memory (by decide), look?_eq_some memory (by decide), hchosen]
  simp only [Option.bind_eq_bind, Option.bind_some, hsorted]
  rw [← hrow]
  exact Option.bind_eq_some_iff.mpr ⟨painted, hpainted, rfl⟩

end Memory

/-! ## Frames -/

namespace Frame

/-- Changes the row of a line.  The rows lie one after another in a buffer of 23040 shades, of which
the change gets the slice that belongs to the line. -/
def change? (frame : Frame) (line : Nat) (change : Row → Option Row) : Option Frame := do
  let start ← product? 64 line width
  let next ← sum? 64 line 1
  let stop ← product? 64 next width
  if start ≤ stop ∧ stop ≤ height * width then
    let row ← frame[line]?
    let changed ← change row
    put? frame line changed
  else
    none

end Frame

/-! ## Converting a row -/

/-- The shades of the colours below the objects. -/
def shadeRow? (palette : UInt8) (colours : Vector Nat Frame.width) : Option Row :=
  Vector.ofFnM fun x => shade? palette colours[x.val]

/-- Paints the objects of a line into a frame, if there are any. -/
def Frame.paintSprites? (frame : Frame) (memory : Memory) (control : UInt8)
    (colours : Vector Nat Frame.width) (line : Nat) : Option Frame :=
  if LcdControl.objectsEnabled control then
    frame.change? line (memory.paintSprites? control colours line)
  else
    some frame

/-- Converts one line in words of limited width. -/
def Ppu.drawRow? (ppu : Ppu) (memory : Memory) (line : UInt8) : Option Ppu :=
  if Frame.height ≤ line.toNat then
    some ppu
  else do
    let control ← memory.look? Address.lcdControl
    let palette ← memory.look? Address.backgroundPalette
    let (colours, windowLine) ← memory.layers? control ppu.windowLine line.toNat
    let frame ← ppu.frame.change? line.toNat fun _ => shadeRow? palette colours
    let frame ← frame.paintSprites? memory control colours line.toNat
    some { ppu with windowLine, frame }

namespace Frame

variable (frame : Frame) {line : Nat} (hline : line < height)

theorem change?_eq_some {change : Row → Option Row} {row : Row}
    (h : change frame[line] = some row) :
    frame.change? line change = some (frame.set line row hline) := by
  have hnext : line + 1 ≤ height := hline
  -- a line is a slice of the buffer that does not reach past its end
  have hslice : line * width ≤ (line + 1) * width ∧ (line + 1) * width ≤ height * width :=
    ⟨Nat.mul_le_mul_right width (Nat.le_succ line), Nat.mul_le_mul_right width hnext⟩
  have hbuffer : height * width < 2 ^ 64 := by decide
  have hlines : height < 2 ^ 64 := by decide
  rw [change?, product?_eq_some (by omega)]
  simp only [Option.bind_eq_bind, Option.bind_some]
  rw [sum?_eq_some (by omega), Option.bind_some, product?_eq_some (by omega), Option.bind_some,
    if_pos hslice, Vector.getElem?_eq_getElem hline, Option.bind_some, h, Option.bind_some,
    put?_eq_some _ hline]

/-- With the objects over what lies below them a line shows its row. -/
theorem paintSprites?_eq_some (memory : Memory) (windowLine : UInt8)
    (h : frame[line] = .ofFn fun x => shade (memory.read Address.backgroundPalette)
      (memory.underlay windowLine line x)) :
    frame.paintSprites? memory memory.lcdControl
        (.ofFn fun x => memory.underlay windowLine line x) line =
      some (frame.set line (memory.row windowLine line) hline) := by
  unfold paintSprites?
  cases hobjects : LcdControl.objectsEnabled memory.lcdControl with
  | true =>
      rw [if_pos rfl]
      refine frame.change?_eq_some hline ?_
      rw [h, memory.paintSprites?_eq_some hobjects]
  | false =>
      have hnone : memory.spritesOn line = [] := by
        rw [Memory.spritesOn, hobjects, if_neg Bool.false_ne_true]
      have hrow : memory.row windowLine line = frame[line] := by
        rw [h, Memory.row, hnone]
        simp only [Memory.pixel_nil]
      rw [if_neg Bool.false_ne_true, hrow, Vector.set_getElem_self]

end Frame

theorem Memory.underlay_lt (memory : Memory) (windowLine : UInt8) (line x : Nat) :
    memory.underlay windowLine line x < 4 := by
  unfold underlay
  split
  · split
    · exact colourNumber_lt _ _ _
    · exact colourNumber_lt _ _ _
  · decide

theorem shadeRow?_eq_some (palette : UInt8) {colour : Nat → Nat} (h : ∀ x, colour x < 4) :
    shadeRow? palette (.ofFn fun x => colour x) =
      some (.ofFn fun x => shade palette (colour x)) := by
  have hplace (x : Fin Frame.width) :
      shade? palette (Vector.ofFn fun x : Fin Frame.width => colour x)[x.val] =
        pure (shade palette (colour x)) := by
    rw [Vector.getElem_ofFn, shade?_eq_some palette (h x)]
    rfl
  simp only [shadeRow?, hplace]
  exact Vector.ofFnM_pure

/-- **The conversion of a row is safe.**  Whatever memory contains, whichever line is converted and
however many lines of the window have been drawn, no number leaves its range, no place lies outside
its buffer, and no cell is read but those that a picture is made from. -/
theorem Ppu.exact_drawRow (ppu : Ppu) (memory : Memory) (line : UInt8) :
    ppu.drawRow? memory line = some (ppu.drawRow memory line.toNat) := by
  unfold drawRow?
  -- below the screen nothing is drawn
  by_cases hbelow : Frame.height ≤ line.toNat
  · rw [if_pos hbelow, drawRow_of_le ppu memory hbelow]
  · have hline : line.toNat < Frame.height := Nat.lt_of_not_le hbelow
    have hshades := shadeRow?_eq_some (memory.read Address.backgroundPalette)
      (memory.underlay_lt ppu.windowLine line.toNat)
    have hcontrol : memory.look? Address.lcdControl = some memory.lcdControl :=
      memory.look?_eq_some (by decide)
    rw [if_neg hbelow, hcontrol, memory.look?_eq_some (by decide)]
    simp only [Option.bind_eq_bind, Option.bind_some]
    rw [Memory.layers?_eq_some, Option.bind_some]
    dsimp only
    rw [Frame.change?_eq_some _ hline hshades, Option.bind_some,
      Frame.paintSprites?_eq_some _ hline memory ppu.windowLine (Vector.getElem_set_self _),
      Option.bind_some, Vector.set_set, drawRow, dif_pos hline]

end GameBoy
