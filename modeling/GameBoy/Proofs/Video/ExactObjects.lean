import GameBoy.Proofs.Video.ExactLayers

/-!
# Objects in words of limited width

The objects of a line are placed with signed words, as their first row and column may lie beyond the
edges of the screen, and painted pixel by pixel over the colours below them.  The functions here do
this operation for operation, and fail where a number would leave its range or a place its buffer.

A canvas holds the row in the making and the columns that an object has claimed.  The filter of the
line bounds the rows of the objects that pass it, `Sprite.tileRow_lt`, and so the addresses of their
bit planes.  After some pixels of an object exactly their columns are painted,
`Sprite.foldlM_paintPixel?`; so a painted object has covered every spot with its colour there,
`Sprite.paint?_eq_some`.
-/

namespace GameBoy

open Width

/-! ## The objects of a line -/

/-- Entry `i` of the object attribute table. -/
def Memory.sprite? (memory : Memory) (i : Nat) : Option Sprite := do
  let distance ← product? 16 i 4
  let base ← sum? 16 0xFE00 distance
  let y ← memory.cell? base
  let x ← sum? 16 base 1 >>= memory.cell?
  let tile ← sum? 16 base 2 >>= memory.cell?
  let attributes ← sum? 16 base 3 >>= memory.cell?
  some { y, x, tile, attributes }

/-- Whether a sprite covers a line; its first row may lie above the screen. -/
def Sprite.covers? (sprite : Sprite) (height line : Nat) : Option Bool := do
  let top ← signed? (sprite.y.toNat - 16)
  let bottom ← signed? (top + height)
  some (decide (top ≤ line ∧ (line : Int) < bottom))

/-- Goes through entries of the table until it has found enough that cover a line. -/
def Memory.chooseSprites? (memory : Memory) (height line : Nat) :
    Nat → List Nat → Option (List Sprite)
  | 0, _ | _, [] => some []
  | wanted + 1, i :: entries => do
    let sprite ← memory.sprite? i
    if ← sprite.covers? height line then
      let sprites ← memory.chooseSprites? height line wanted entries
      some (sprite :: sprites)
    else
      memory.chooseSprites? height line (wanted + 1) entries

theorem Sprite.covers?_eq_some (sprite : Sprite) {height : Nat} (h : height ≤ 16)
    (line : Nat) : sprite.covers? height line = some (sprite.covers height line) := by
  -- all the operands are below 300, so no signed intermediate result leaves its width
  have hy := sprite.y.toNat_lt
  have hcovers : decide ((sprite.y.toNat : Int) - 16 ≤ line ∧
      (line : Int) < sprite.y.toNat - 16 + height) = sprite.covers height line := by
    rw [Sprite.covers, ← Bool.decide_and]
    congr 1
    exact propext (by omega)
  rw [Sprite.covers?, signed?_eq_some (by omega)]
  simp only [Option.bind_eq_bind, Option.bind_some]
  rw [signed?_eq_some (by omega), Option.bind_some, hcovers]

namespace Memory

variable (memory : Memory)

theorem sprite?_eq_some {i : Nat} (h : i < 40) : memory.sprite? i = some (memory.sprite i) := by
  rw [sprite?, product?_eq_some (by omega)]
  simp only [Option.bind_eq_bind, Option.bind_some]
  rw [sum?_eq_some (by omega), Option.bind_some, cell?_eq_some memory (by omega), Option.bind_some,
    sum?_eq_some (by omega), Option.bind_some, cell?_eq_some memory (by omega), Option.bind_some,
    sum?_eq_some (by omega), Option.bind_some, cell?_eq_some memory (by omega), Option.bind_some,
    sum?_eq_some (by omega), Option.bind_some, cell?_eq_some memory (by omega), Option.bind_some,
    Nat.mul_comm]
  rfl

theorem chooseSprites?_eq_some {height : Nat} (hheight : height ≤ 16) (line wanted : Nat)
    (entries : List Nat) (h : ∀ i ∈ entries, i < 40) :
    memory.chooseSprites? height line wanted entries =
      some (((entries.map memory.sprite).filter (·.covers height line)).take wanted) := by
  induction entries generalizing wanted with
  | nil =>
      -- the scan ends with the entries or with the ten that fit, whichever comes first
      cases wanted with
      | zero => rfl
      | succ wanted => rfl
  | cons i entries ih =>
      cases wanted with
      | zero => rw [List.take_zero]; rfl
      | succ wanted =>
          have hrest (j : Nat) (hj : j ∈ entries) : j < 40 := h j (List.mem_cons_of_mem i hj)
          rw [chooseSprites?, sprite?_eq_some memory (h i List.mem_cons_self)]
          simp only [Option.bind_eq_bind, Option.bind_some]
          rw [Sprite.covers?_eq_some _ hheight, Option.bind_some, List.map_cons, List.filter_cons]
          split
          · -- the entry is on the line and takes one of the places
            rw [ih wanted hrest, Option.bind_some, List.take_succ_cons]
          · exact ih (wanted + 1) hrest

end Memory

/-! ## The bit planes of an object -/

namespace Sprite

/-- The row of the sprite's tile on a line that it covers: a signed difference, cut down to a byte
and turned over if the sprite is. -/
def tileRow? (sprite : Sprite) (height line : Nat) : Option Nat := do
  let top ← signed? (sprite.y.toNat - 16)
  let below ← signed? (line - top)
  let row := (below % 256).toNat
  if sprite.flipsY then
    let last ← difference? height 1
    difference? last row
  else
    some row

/-- The low and the high bits of the colours of a sprite on a line that it covers. -/
def planes? (sprite : Sprite) (memory : Memory) (height line : Nat) : Option (UInt8 × UInt8) := do
  let row ← sprite.tileRow? height line
  let tile := if height = 16 then sprite.tile &&& 0xFE else sprite.tile
  let distance ← product? 16 tile.toNat 16
  let start ← sum? 16 0x8000 distance
  let distance ← product? 16 row 2
  let address ← sum? 16 start distance
  let low ← memory.cell? address
  let next ← sum? 16 address 1
  let high ← memory.cell? next
  some (low, high)

variable {sprite : Sprite} {height line : Nat}

theorem tileRow_lt (hheight : height ≤ 16) (hcovers : sprite.covers height line = true) :
    sprite.tileRow height line < 16 := by
  simp only [covers, Bool.and_eq_true, decide_eq_true_eq] at hcovers
  unfold tileRow
  dsimp only
  split <;> omega

theorem tileRow?_eq_some (hheight : height ≤ 16) (hcovers : sprite.covers height line = true) :
    sprite.tileRow? height line = some (sprite.tileRow height line) := by
  have hy := sprite.y.toNat_lt
  simp only [covers, Bool.and_eq_true, decide_eq_true_eq] at hcovers
  -- a covering object begins at most 15 lines above, so the remainder changes nothing
  have hrow : (((line : Int) - (sprite.y.toNat - 16)) % 256).toNat =
      line + 16 - sprite.y.toNat := by
    omega
  rw [tileRow?, signed?_eq_some (by omega)]
  simp only [Option.bind_eq_bind, Option.bind_some]
  rw [signed?_eq_some (by omega), Option.bind_some, hrow, tileRow]
  split
  · rw [difference?_eq_some (by omega), Option.bind_some, difference?_eq_some (by omega)]
  · rfl

theorem planes?_eq_some (memory : Memory) (hheight : height ≤ 16)
    (hcovers : sprite.covers height line = true) :
    sprite.planes? memory height line = some (memory.cell (sprite.rowAddress height line),
      memory.cell (sprite.rowAddress height line + 1)) := by
  have hrow := tileRow_lt hheight hcovers
  rw [planes?, tileRow?_eq_some hheight hcovers, rowAddress]
  simp only [Option.bind_eq_bind, Option.bind_some]
  -- which tile it is does not matter any more, only that its number is a byte
  generalize (if height = 16 then sprite.tile &&& 0xFE else sprite.tile) = tile
  have htile := tile.toNat_lt
  rw [product?_eq_some (by omega), Option.bind_some, sum?_eq_some (by omega), Option.bind_some,
    product?_eq_some (by omega), Option.bind_some, sum?_eq_some (by omega), Option.bind_some,
    Memory.cell?_eq_some memory (by omega), Option.bind_some, sum?_eq_some (by omega),
    Option.bind_some, Memory.cell?_eq_some memory (by omega), Option.bind_some, Nat.mul_comm 16,
    Nat.mul_comm 2]

end Sprite

/-! ## Painting -/

/-- A row in the making: its shades, and the columns that an object has claimed. -/
structure Canvas where
  row : Row
  claimed : Vector Bool Frame.width

/-- What a canvas holds in one column. -/
structure Spot where
  shade : UInt8
  claimed : Bool

namespace Canvas

def spot (canvas : Canvas) (x : Nat) (hx : x < Frame.width) : Spot :=
  ⟨canvas.row[x], canvas.claimed[x]⟩

def set (canvas : Canvas) (x : Nat) (spot : Spot) (hx : x < Frame.width) : Canvas :=
  ⟨canvas.row.set x spot.shade, canvas.claimed.set x spot.claimed⟩

theorem spot_set (canvas : Canvas) {x y : Nat} (spot : Spot) (hx : x < Frame.width)
    (hy : y < Frame.width) :
    (canvas.set x spot hx).spot y hy = if x = y then spot else canvas.spot y hy := by
  unfold set Canvas.spot
  simp only [Vector.getElem_set]
  split <;> rfl

theorem set_spot (canvas : Canvas) {x : Nat} (hx : x < Frame.width) :
    canvas.set x (canvas.spot x hx) hx = canvas := by
  simp only [set, spot, Vector.set_getElem_self]

end Canvas

/-- What a spot holds after an object with a colour there: the first one claims it, even if it is
hidden by the colour below. -/
def Spot.cover (object : Sprite) (palette : UInt8) (under colour : Nat) (spot : Spot) : Spot :=
  if spot.claimed || colour == 0 then spot
  else if object.isBehind && under != 0 then ⟨spot.shade, true⟩
  else ⟨GameBoy.shade palette colour, true⟩

@[simp] theorem Spot.cover_zero (object : Sprite) (palette : UInt8) (under : Nat) (spot : Spot) :
    spot.cover object palette under 0 = spot := by
  rw [cover, beq_self_eq_true, Bool.or_true, if_pos rfl]

namespace Sprite

/-- The bit position of the pixel at an offset from the sprite's left edge. -/
def position? (sprite : Sprite) (offset : Nat) : Option Nat :=
  if sprite.flipsX then some offset else difference? 7 offset

/-- Whether the colour below hides a sprite in a column. -/
def isHidden? (sprite : Sprite) (colours : Vector Nat Frame.width) (x : Nat) : Option Bool :=
  if sprite.isBehind then colours[x]?.map (· != 0) else some false

/-- Paints a sprite with the bit planes of its row into one column. -/
def paintColumn? (sprite : Sprite) (colours : Vector Nat Frame.width) (palette low high : UInt8)
    (offset x : Nat) (canvas : Canvas) : Option Canvas := do
  if ← canvas.claimed[x]? then
    some canvas
  else
    let position ← sprite.position? offset
    let colour ← colourNumber? low high position
    if colour = 0 then
      some canvas
    else
      let claimed ← put? canvas.claimed x true
      if ← sprite.isHidden? colours x then
        some { canvas with claimed }
      else
        let shown ← shade? palette colour
        let row ← put? canvas.row x shown
        some { row, claimed }

/-- Paints the pixel at an offset from the sprite's left edge, if it is on the screen. -/
def paintPixel? (sprite : Sprite) (colours : Vector Nat Frame.width) (palette low high : UInt8)
    (canvas : Canvas) (offset : Nat) : Option Canvas := do
  let left ← signed? (sprite.x.toNat - 8)
  let x ← signed? (left + offset)
  if 0 ≤ x ∧ x < Frame.width then
    sprite.paintColumn? colours palette low high offset x.toNat canvas
  else
    some canvas

/-- Paints the row of a sprite on a line, pixel by pixel. -/
def paint? (sprite : Sprite) (memory : Memory) (height line : Nat)
    (colours : Vector Nat Frame.width) (palette : UInt8) (canvas : Canvas) : Option Canvas := do
  let (low, high) ← sprite.planes? memory height line
  (List.range 8).foldlM (sprite.paintPixel? colours palette low high) canvas

/-- The bit position of the pixel at an offset. -/
def position (sprite : Sprite) (offset : Nat) : Nat := if sprite.flipsX then offset else 7 - offset

variable (sprite : Sprite) (colours : Vector Nat Frame.width) (palette low high : UInt8)

theorem position?_eq_some {offset : Nat} (h : offset < 8) :
    sprite.position? offset = some (sprite.position offset) := by
  unfold position? position
  rw [difference?_eq_some (Nat.le_of_lt_succ h)]
  split <;> rfl

theorem position_lt {offset : Nat} (h : offset < 8) : sprite.position offset < 8 := by
  unfold position
  split <;> omega

theorem isHidden?_eq_some {x : Nat} (hx : x < Frame.width) :
    sprite.isHidden? colours x = some (sprite.isBehind && colours[x] != 0) := by
  unfold isHidden?
  rw [Vector.getElem?_eq_getElem hx]
  cases sprite.isBehind with
  | true => rfl
  | false => rfl

theorem paintColumn?_eq_some {offset x : Nat} (hoffset : offset < 8) (hx : x < Frame.width)
    (canvas : Canvas) :
    sprite.paintColumn? colours palette low high offset x canvas =
      some (canvas.set x ((canvas.spot x hx).cover sprite palette colours[x]
        (colourNumber low high (sprite.position offset))) hx) := by
  have hposition := sprite.position_lt hoffset
  have hcolour := colourNumber_lt low high (sprite.position offset)
  rw [paintColumn?, Vector.getElem?_eq_getElem hx, position?_eq_some sprite hoffset]
  simp only [Option.bind_eq_bind, Option.bind_some, colourNumber?_eq_some _ _ hposition,
    isHidden?_eq_some sprite colours hx, put?_eq_some _ hx, shade?_eq_some _ hcolour]
  generalize colourNumber low high (sprite.position offset) = colour
  cases hclaimed : canvas.claimed[x] with
  -- an object further in front has claimed the pixel
  | true =>
      have hspot :
          (canvas.spot x hx).cover sprite palette colours[x] colour = canvas.spot x hx := by
        rw [Spot.cover, Canvas.spot, hclaimed, Bool.true_or, if_pos rfl]
      rw [if_pos rfl, hspot, canvas.set_spot hx]
  | false =>
      rw [if_neg Bool.false_ne_true]
      by_cases hzero : colour = 0
      · -- a transparent pixel claims nothing
        rw [if_pos hzero, hzero, Spot.cover_zero, canvas.set_spot hx]
      · have hspot : (canvas.spot x hx).cover sprite palette colours[x] colour =
            if sprite.isBehind && colours[x] != 0 then ⟨canvas.row[x], true⟩
            else ⟨shade palette colour, true⟩ := by
          rw [Spot.cover, Canvas.spot, hclaimed, Bool.false_or, if_neg (by simpa using hzero)]
        rw [if_neg hzero, hspot]
        -- behind the background the pixel is claimed all the same, but keeps its shade
        cases sprite.isBehind && colours[x] != 0 with
        | true => simp only [if_true, Canvas.set, Vector.set_getElem_self]
        | false => rfl

theorem paintPixel?_eq_some {offset : Nat} (hoffset : offset < 8) (canvas : Canvas) :
    ∃ painted, sprite.paintPixel? colours palette low high canvas offset = some painted ∧
      ∀ x (hx : x < Frame.width), painted.spot x hx =
        if x + 8 = sprite.x.toNat + offset then
          (canvas.spot x hx).cover sprite palette colours[x]
            (colourNumber low high (sprite.position offset))
        else canvas.spot x hx := by
  have hlt := sprite.x.toNat_lt
  rw [paintPixel?, signed?_eq_some (by omega)]
  simp only [Option.bind_eq_bind, Option.bind_some]
  rw [signed?_eq_some (by omega), Option.bind_some]
  -- columns left of the screen are negative, which is why the test comes before the cast
  by_cases hscreen : 0 ≤ (sprite.x.toNat : Int) - 8 + offset ∧
      (sprite.x.toNat : Int) - 8 + offset < Frame.width
  · obtain ⟨x, hx⟩ := Int.eq_ofNat_of_zero_le hscreen.1
    have hxlt : x < Frame.width := by omega
    rw [if_pos hscreen, hx, Int.toNat_natCast]
    refine ⟨_, paintColumn?_eq_some sprite colours palette low high hoffset hxlt canvas,
      fun y hy => ?_⟩
    rw [Canvas.spot_set]
    by_cases hcolumn : x = y
    · subst hcolumn
      rw [if_pos rfl, if_pos (by omega)]
    · rw [if_neg hcolumn, if_neg (by omega)]
  · refine ⟨canvas, if_neg hscreen, fun x hx => ?_⟩
    rw [if_neg (by omega)]

/-- After some pixels exactly their columns are painted. -/
theorem foldlM_paintPixel? {count : Nat} (hcount : count ≤ 8) (canvas : Canvas) :
    ∃ painted, (List.range count).foldlM (sprite.paintPixel? colours palette low high) canvas =
        some painted ∧
      ∀ x (hx : x < Frame.width), painted.spot x hx =
        if sprite.x.toNat ≤ x + 8 ∧ x + 8 < sprite.x.toNat + count then
          (canvas.spot x hx).cover sprite palette colours[x]
            (colourNumber low high (sprite.position (x + 8 - sprite.x.toNat)))
        else canvas.spot x hx := by
  -- by induction on the columns painted: each spot has been covered by the one column that falls on
  -- it, if that is among them
  induction count with
  | zero =>
      refine ⟨canvas, rfl, fun x hx => ?_⟩
      rw [if_neg (by omega)]
  | succ count ih =>
      obtain ⟨before, hbefore, hspots⟩ := ih (Nat.le_of_succ_le hcount)
      obtain ⟨painted, hpainted, hpixel⟩ :=
        sprite.paintPixel?_eq_some colours palette low high hcount before
      refine ⟨painted, ?_, fun x hx => ?_⟩
      · rw [List.range_succ, List.foldlM_append, hbefore]
        simp only [Option.bind_eq_bind, Option.bind_some, List.foldlM_cons, List.foldlM_nil,
          hpainted, Option.pure_def]
      · rw [hpixel x hx, hspots x hx]
        -- the column just painted is the one on this spot, or none so far has become so
        by_cases hlast : x + 8 = sprite.x.toNat + count
        · have hoffset : x + 8 - sprite.x.toNat = count := by omega
          rw [if_pos hlast, if_neg (by omega), if_pos (by omega), hoffset]
        · rw [if_neg hlast]
          exact if_congr (by omega) rfl rfl

/-- A painted sprite covers every spot with its colour there, which is none beside the sprite. -/
theorem paint?_eq_some {height line : Nat} (memory : Memory) (hheight : height ≤ 16)
    (hcovers : sprite.covers height line = true) (canvas : Canvas) :
    ∃ painted, sprite.paint? memory height line colours palette canvas = some painted ∧
      ∀ x (hx : x < Frame.width), painted.spot x hx =
        (canvas.spot x hx).cover sprite palette colours[x]
          (sprite.colour memory height line x) := by
  obtain ⟨painted, hpainted, hspots⟩ := sprite.foldlM_paintPixel? colours palette
    (memory.cell (sprite.rowAddress height line)) (memory.cell (sprite.rowAddress height line + 1))
    (Nat.le_refl 8) canvas
  refine ⟨painted, ?_, fun x hx => ?_⟩
  · rw [paint?, planes?_eq_some memory hheight hcovers]
    exact hpainted
  · -- past the eighth column the object has no colour, and covering with none changes nothing
    have hspans : sprite.spans x = true ↔
        sprite.x.toNat ≤ x + 8 ∧ x + 8 < sprite.x.toNat + 8 := by
      rw [spans, Bool.and_eq_true, decide_eq_true_eq, decide_eq_true_eq]
      omega
    rw [hspots x hx, colour]
    by_cases hcolumn : sprite.x.toNat ≤ x + 8 ∧ x + 8 < sprite.x.toNat + 8
    · rw [if_pos hcolumn, if_pos (hspans.mpr hcolumn)]
      rfl
    · rw [if_neg hcolumn, if_neg (fun hspan => hcolumn (hspans.mp hspan)), Spot.cover_zero]

end Sprite

end GameBoy
