import Mathlib.Logic.Equiv.Defs
import Mathlib.Data.List.FinRange
import GameBoy.Video.Terminal
import GameBoy.Proofs.Text.Spelling
import GameBoy.Proofs.Width

/-!
# What a terminal shows

The text that draws a frame is the text of a `Screen`: 72 lines of 160 character cells, each with a
foreground and a background colour.  A screen has one text and a text belongs to at most one screen,
`Screen.parse?_eq_some`, since the text is put together from texts that can be read back.

Which screen that is depends on the pixels only through their colours, and the ramp of colours gives
no two shades the same one as long as none goes below zero.  So a picture can be read off the
terminal again.  The pixels are given as one buffer, row after row, and `Buffer.terminalText?` puts
the text together with bytes for colours and words for places, failing where one would leave its
range.  The main statement is `terminalText_readable`.
-/

namespace GameBoy

/-! ## Screens -/

/-- The colours of a character cell. -/
structure Cell where
  foreground : Nat
  background : Nat
  deriving DecidableEq, Repr

namespace Cell

def text (cell : Cell) : String :=
  "\x1B[38;5;" ++ toString cell.foreground ++ "m\x1B[48;5;" ++ toString cell.background ++ "m▄"

def colours : Nat × Nat ≃ Cell where
  toFun colours := ⟨colours.1, colours.2⟩
  invFun cell := (cell.foreground, cell.background)

/-- Each of the two colours is a number that ends at its `m`. -/
def spelling : Spelling Cell :=
  .map (.pair (.enclosed "\x1B[38;5;" (.decimal 'm' (by decide)) "")
    (.enclosed "\x1B[48;5;" (.decimal 'm' (by decide)) "▄")) colours

theorem write_spelling (cell : Cell) : spelling.write cell = cell.text.toList := by
  simp only [spelling, text, Spelling.map, Spelling.pair, Spelling.enclosed, Spelling.decimal,
    Nat.toString_eq_repr, String.toList_append, Nat.toList_repr]
  simp [colours]

end Cell

/-- What a terminal of 72 lines shows. -/
abbrev Screen := Vector (Vector Cell Frame.width) (Frame.height / 2)

namespace Screen

def lineText (line : Vector Cell Frame.width) : String :=
  String.join (line.toList.map Cell.text) ++ "\x1B[0m\n"

/-- The text that draws a screen from the upper left corner on, each line ended by a reset of the
colours and a line break. -/
def text (screen : Screen) : String := "\x1B[H" ++ String.join (screen.toList.map lineText)

def lineSpelling : Spelling (Vector Cell Frame.width) :=
  .enclosed "" (Cell.spelling.repeated _) "\x1B[0m\n"

def spelling : Spelling Screen := .enclosed "\x1B[H" (lineSpelling.repeated _) ""

theorem write_lineSpelling (line : Vector Cell Frame.width) :
    lineSpelling.write line = (lineText line).toList := by
  have hcells : Cell.spelling.write = String.toList ∘ Cell.text := funext Cell.write_spelling
  simp only [lineSpelling, lineText, Spelling.enclosed, Spelling.repeated, hcells,
    String.toList_append, String.toList_join, List.flatMap_map, Function.comp_def,
    String.toList_empty, List.nil_append]

theorem write_spelling (screen : Screen) : spelling.write screen = screen.text.toList := by
  have hlines : lineSpelling.write = String.toList ∘ lineText := funext write_lineSpelling
  simp only [spelling, text, Spelling.enclosed, Spelling.repeated, hlines, String.toList_append,
    String.toList_join, List.flatMap_map, Function.comp_def, String.toList_empty, List.append_nil]

theorem text_injective {a b : Screen} (h : a.text = b.text) : a = b := by
  apply spelling.write_injective
  rw [write_spelling, write_spelling, h]

/-- Reads the screen that a text draws. -/
def parse? (text : String) : Option Screen := spelling.parse? text.toList

/-- A text draws a screen if and only if it is the text of that screen. -/
theorem parse?_eq_some {text : String} {screen : Screen} :
    parse? text = some screen ↔ text = screen.text := by
  rw [parse?, Spelling.parse?_eq_some, write_spelling, String.toList_inj]

end Screen

/-! ## Buffers -/

namespace Frame

open Width

/-- The shades of a picture, row after row. -/
abbrev Buffer := Vector UInt8 (height * width)

section Places

variable {line x k : Nat}

theorem place_lt (hline : line < height) (hx : x < width) : line * width + x < height * width :=
  calc line * width + x < line * width + width := Nat.add_lt_add_left hx _
    _ = (line + 1) * width := (Nat.succ_mul line width).symm
    _ ≤ height * width := Nat.mul_le_mul_right width hline

theorem upper_lt (hk : k < height / 2) : 2 * k < height := by
  simp only [height] at *
  omega

theorem lower_lt (hk : k < height / 2) : 2 * k + 1 < height := by
  simp only [height] at *
  omega

/-- Each place of a buffer belongs to the upper or to the lower pixel of one cell. -/
theorem exists_cell {i : Nat} (hi : i < height * width) :
    ∃ k x, k < height / 2 ∧ x < width ∧ (i = 2 * k * width + x ∨ i = (2 * k + 1) * width + x) := by
  refine ⟨i / 320, i % 160, ?_, ?_, ?_⟩ <;> simp only [height, width] at * <;> omega

end Places

/-- The picture in a buffer. -/
def ofBuffer (buffer : Buffer) : Frame :=
  .ofFn fun line => .ofFn fun x =>
    have hplace := place_lt line.isLt x.isLt
    buffer[line.val * width + x.val]

theorem pixels_eq_flatten (frame : Frame) : frame.pixels = frame.flatten.toList := by
  rw [pixels, Vector.flatten]
  show _ = (Array.map Vector.toArray frame.toArray).flatten.toList
  rw [Array.toList_flatten, Array.toList_map, List.map_map]
  rfl

/-- The pixels of that picture are those of the buffer, in order. -/
theorem pixels_ofBuffer (buffer : Buffer) : (ofBuffer buffer).pixels = buffer.toList := by
  rw [pixels_eq_flatten]
  congr 1
  ext i hi
  simp only [ofBuffer, Vector.getElem_flatten, Vector.getElem_ofFn, Nat.div_add_mod']

namespace Buffer

variable (buffer : Buffer)

/-- Each cell shows the lower of its two pixels in the foreground and the upper one in the
background. -/
def screen : Screen :=
  .ofFn fun k => .ofFn fun x =>
    have hlower := place_lt (lower_lt k.isLt) x.isLt
    have hupper := place_lt (upper_lt k.isLt) x.isLt
    { foreground := 255 - 7 * buffer[(2 * k.val + 1) * width + x.val].toNat
      background := 255 - 7 * buffer[2 * k.val * width + x.val].toNat }

/-! ## The text of a buffer in limited width -/

/-- The colour of a shade, computed in bytes. -/
def colour? (shade : UInt8) : Option Nat := do
  let steps ← product? 8 shade.toNat 7
  difference? 255 steps

/-- The shade of a pixel, whose place is computed in words. -/
def look? (line x : Nat) : Option UInt8 := do
  let start ← product? 64 line width
  let place ← sum? 64 start x
  buffer[place]?

def writeCell? (line : Nat) (output : String) (x : Nat) : Option String := do
  let upper ← buffer.look? line x
  let next ← sum? 64 line 1
  let lower ← buffer.look? next x
  let background ← colour? upper
  let foreground ← colour? lower
  some (output ++ Cell.text { foreground, background })

def writeLine? (output : String) (line : Nat) : Option String := do
  let output ← (List.range width).foldlM (buffer.writeCell? line) output
  some (output ++ "\x1B[0m\n")

/-- The text that draws a buffer, every second row together with the one below it. -/
def terminalText? : Option String :=
  (List.range' 0 (height / 2) 2).foldlM buffer.writeLine? "\x1B[H"

end Buffer

/-! ## Pictures as screens -/

/-- The cells that show two rows of pixels. -/
def cells (upper lower : Row) : Vector Cell width :=
  upper.zipWith (fun upper lower => ⟨terminalColour lower, terminalColour upper⟩) lower

theorem zipWith_cellText (upper lower : Row) :
    List.zipWith cellText upper.toList lower.toList =
      (cells upper lower).toList.map Cell.text := by
  rw [cells, Vector.toList_zipWith, List.map_zipWith]
  rfl

theorem rowPairsText_eq_join (n : Nat) (rows : List Row) (h : rows.length = 2 * n) :
    rowPairsText rows = String.join (List.ofFn fun k : Fin n =>
      rowPairText (rows.get ⟨2 * k.val, by omega⟩) (rows.get ⟨2 * k.val + 1, by omega⟩)) := by
  induction n generalizing rows with
  | zero =>
      obtain rfl := List.eq_nil_of_length_eq_zero h
      rfl
  | succ n ih =>
      -- the text takes two rows at a time, so the list is taken apart two at a time as well
      match rows, h with
      | upper :: lower :: rest, h =>
        have hrest : rest.length = 2 * n := by
          simp only [List.length_cons] at h
          omega
        rw [rowPairsText, ih rest hrest, List.ofFn_succ, String.join_cons]
        rfl

theorem rowPairText_ofBuffer (buffer : Buffer) {k : Nat} (hk : k < height / 2)
    (hupper : 2 * k < height) (hlower : 2 * k + 1 < height) :
    rowPairText (ofBuffer buffer)[2 * k] (ofBuffer buffer)[2 * k + 1] =
      Screen.lineText buffer.screen[k] := by
  have hcells : cells (ofBuffer buffer)[2 * k] (ofBuffer buffer)[2 * k + 1] =
      buffer.screen[k] := by
    ext x hx
    simp only [cells, ofBuffer, Buffer.screen, Vector.getElem_zipWith, Vector.getElem_ofFn,
      terminalColour]
  rw [rowPairText, zipWith_cellText, Screen.lineText, hcells]

theorem toList_eq_map_finRange {α : Type} {n : Nat} (values : Vector α n) :
    values.toList = (List.finRange n).map values.get := by
  have hget : values.get = fun i : Fin n => values[i.val] := rfl
  rw [hget, ← List.ofFn_eq_map, ← Vector.toList_ofFn, Vector.ofFn_getElem]

theorem terminalText_ofBuffer (buffer : Buffer) :
    (ofBuffer buffer).terminalText = buffer.screen.text := by
  -- the height is even, so no row is left without a partner
  have hlength : (ofBuffer buffer).toList.length = 2 * (height / 2) := by
    rw [Vector.length_toList]
    rfl
  rw [terminalText, Screen.text, rowPairsText_eq_join (height / 2) _ hlength, List.ofFn_eq_map,
    toList_eq_map_finRange buffer.screen, List.map_map]
  simp only [List.get_eq_getElem, Vector.getElem_toList, rowPairText_ofBuffer, Fin.is_lt]
  rfl

namespace Buffer

variable (buffer : Buffer)

/-! ## Nothing leaves its range -/

theorem colour?_eq_some {shade : UInt8} (h : shade ≤ 36) :
    colour? shade = some (255 - 7 * shade.toNat) := by
  have hle : shade.toNat ≤ 36 := UInt8.le_iff_toNat_le.mp h
  -- the bound on the shades is what keeps both operations within a byte
  have hsteps : shade.toNat * 7 < 2 ^ 8 := by omega
  have hrange : shade.toNat * 7 ≤ 255 := by omega
  rw [colour?, product?_eq_some hsteps, Option.bind_eq_bind, Option.bind_some,
    difference?_eq_some hrange, Nat.mul_comm]

theorem look?_eq_some {line x : Nat} (hplace : line * width + x < height * width) :
    buffer.look? line x = some buffer[line * width + x] := by
  have hbuffer : height * width < 2 ^ 64 := by decide
  rw [look?, product?_eq_some (by omega), Option.bind_eq_bind, Option.bind_some,
    sum?_eq_some (by omega), Option.bind_some, Vector.getElem?_eq_getElem hplace]

/-- A loop that appends a text each time appends them all. -/
theorem foldlM_eq_some_append {α : Type} {write? : String → α → Option String} {text : α → String}
    (hwrite : ∀ output a, write? output a = some (output ++ text a)) (places : List α)
    (output : String) :
    places.foldlM write? output = some (output ++ String.join (places.map text)) := by
  induction places generalizing output with
  | nil =>
      rw [List.foldlM_nil, List.map_nil, String.join_nil, String.append_empty]
      rfl
  -- what has been written stays in front of the rest
  | cons place places ih =>
      rw [List.foldlM_cons, hwrite, Option.bind_eq_bind, Option.bind_some, ih, List.map_cons,
        String.join_cons, String.append_assoc]

section

variable (h : ∀ shade ∈ buffer, shade ≤ 36)
include h

theorem writeCell?_eq_some (k : Fin (height / 2)) (output : String) (x : Fin width) :
    buffer.writeCell? (2 * k.val) output x.val =
      some (output ++ ((buffer.screen.get k).get x).text) := by
  have hlines : height < 2 ^ 64 := by decide
  have hlower := lower_lt k.isLt
  simp only [writeCell?, Option.bind_eq_bind]
  -- both looks are in range and so are the shades they find; the lines take less than 64 bits
  rw [look?_eq_some buffer (place_lt (upper_lt k.isLt) x.isLt), Option.bind_some,
    sum?_eq_some (by omega), Option.bind_some, look?_eq_some buffer (place_lt hlower x.isLt),
    Option.bind_some,
    colour?_eq_some (h _ (Vector.getElem_mem _)), Option.bind_some,
    colour?_eq_some (h _ (Vector.getElem_mem _)), Option.bind_some]
  show _ = some (output ++ buffer.screen[k.val][x.val].text)
  simp only [screen, Vector.getElem_ofFn]

theorem writeLine?_eq_some (output : String) (k : Fin (height / 2)) :
    buffer.writeLine? output (2 * k.val) =
      some (output ++ Screen.lineText (buffer.screen.get k)) := by
  rw [writeLine?, ← List.map_coe_finRange_eq_range, List.foldlM_map,
    -- the columns are counted by plain numbers, which the screen knows as indices
    foldlM_eq_some_append (buffer.writeCell?_eq_some h k), Option.bind_eq_bind, Option.bind_some,
    Screen.lineText, toList_eq_map_finRange, List.map_map, String.append_assoc]
  rfl

theorem terminalText?_eq_some : buffer.terminalText? = some buffer.screen.text := by
  have heven : List.range' 0 (height / 2) 2 =
      (List.finRange (height / 2)).map fun k => 2 * k.val := by decide
  rw [terminalText?, heven, List.foldlM_map, foldlM_eq_some_append (buffer.writeLine?_eq_some h),
    Screen.text, toList_eq_map_finRange, List.map_map]
  rfl

end

/-! ## Nothing is lost -/

theorem eq_of_screen_eq {other : Buffer} (h : ∀ shade ∈ buffer, shade ≤ 36)
    (hother : ∀ shade ∈ other, shade ≤ 36) (hscreen : other.screen = buffer.screen) :
    other = buffer := by
  refine Vector.ext fun i hi => ?_
  -- every pixel is the upper or the lower half of one cell
  obtain ⟨k, x, hk, hx, hplace⟩ := exists_cell hi
  have hcell : other.screen[k][x] = buffer.screen[k][x] := by rw [hscreen]
  simp only [screen, Vector.getElem_ofFn, Cell.mk.injEq] at hcell
  -- up to 36 no two shades have the same colour
  have ha := UInt8.le_iff_toNat_le.mp (hother _ (Vector.getElem_mem hi))
  have hb := UInt8.le_iff_toNat_le.mp (h _ (Vector.getElem_mem hi))
  have h36 : UInt8.toNat 36 = 36 := rfl
  apply UInt8.toNat_inj.mp
  rcases hplace with rfl | rfl
  · omega
  · omega

end Buffer

/-- **A picture can be read off the terminal.**  Whatever 23040 shades up to 36 a buffer holds, the
text that draws the picture with these pixels is computed in limited width without a failure.  It is
the text of one screen alone, whose cell `x` of line `k` has the colours of pixel `x` of lines
`2 * k + 1` and `2 * k`, and that screen is read from it.  No other such buffer has the same
text. -/
theorem terminalText_readable (buffer : Buffer) (h : ∀ shade ∈ buffer, shade ≤ 36) :
    (ofBuffer buffer).pixels = buffer.toList ∧
    buffer.terminalText? = some (ofBuffer buffer).terminalText ∧
    (∀ screen : Screen, (ofBuffer buffer).terminalText = screen.text ↔ screen = buffer.screen) ∧
    Screen.parse? (ofBuffer buffer).terminalText = some buffer.screen ∧
    ∀ other : Buffer, (∀ shade ∈ other, shade ≤ 36) →
      (ofBuffer other).terminalText = (ofBuffer buffer).terminalText → other = buffer := by
  -- parsing is the inverse of writing, and what is written is the screen of the buffer
  have hparse : Screen.parse? (ofBuffer buffer).terminalText = some buffer.screen :=
    Screen.parse?_eq_some.mpr (terminalText_ofBuffer buffer)
  refine ⟨pixels_ofBuffer buffer, ?_, ?_, hparse, ?_⟩
  · rw [terminalText_ofBuffer]
    exact buffer.terminalText?_eq_some h
  · intro screen
    rw [← Screen.parse?_eq_some, hparse, Option.some.injEq, eq_comm]
  · intro other hother htext
    rw [terminalText_ofBuffer, terminalText_ofBuffer] at htext
    exact buffer.eq_of_screen_eq h hother (Screen.text_injective htext)

/-- A picture with all shades up to 36. -/
def Buffer.ramp : Buffer := .ofFn fun i => .ofNat (i.val % 37)

theorem Buffer.le_of_mem_ramp : ∀ shade ∈ ramp, shade ≤ 36 := by
  intro shade hshade
  obtain ⟨i, rfl⟩ := Vector.mem_ofFn.mp hshade
  have hlt : i.val % 37 < 37 := Nat.mod_lt _ (by decide)
  rw [UInt8.le_iff_toNat_le, UInt8.toNat_ofNat_of_lt' (Nat.lt_trans hlt (by decide))]
  exact Nat.le_of_lt_succ hlt

theorem terminalText_readable_ramp :
    (∀ shade ∈ Buffer.ramp, shade ≤ 36) ∧
    Screen.parse? (ofBuffer Buffer.ramp).terminalText = some Buffer.ramp.screen := by
  obtain ⟨-, -, -, hparse, -⟩ := terminalText_readable Buffer.ramp Buffer.le_of_mem_ramp
  exact ⟨Buffer.le_of_mem_ramp, hparse⟩

end Frame

end GameBoy
