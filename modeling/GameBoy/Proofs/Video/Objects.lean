import Mathlib.Data.Nat.Count
import GameBoy.Proofs.Video.Plane

/-!
# Which object shows

Two orders decide which object shows at a place.  The first ten of the table that cover the line are
selected, and of those with a colour at the place the one furthest to the left is in front, with
the order of the table among equals.  `Memory.Selected` counts in the one order and
`Memory.Foremost` is least in the other; the conversion of a row filters, cuts off, sorts and
searches instead.  `mem_selected` and `foremost?_eq_some_iff` say that it finds the same objects:
the cut is a count of earlier entries, and as the sort is stable, `pairwise_precedes`, the search
through it finds the least.

The main statement is `Ppu.drawRow_of_objects`.
-/

namespace GameBoy

/-! ## The first entries of a table, and the foremost of them -/

section

variable {p : Nat → Prop} [DecidablePred p]

theorem length_filter_range (n : Nat) :
    ((List.range n).filter fun i => decide (p i)).length = Nat.count p n := by
  rw [Nat.count, List.countP_eq_length_filter]

/-- The first `k` entries with a property are those before which fewer than `k` have it. -/
theorem mem_take_filter_range (n k i : Nat) :
    i ∈ ((List.range n).filter fun i => decide (p i)).take k ↔
      i < n ∧ p i ∧ Nat.count p i < k := by
  -- by induction on the number of entries: the last one is taken if there is room left
  induction n with
  | zero => simp
  | succ n ih =>
      have hlast : i ∈ ([n].filter fun i => decide (p i)).take (k - Nat.count p n) ↔
          i = n ∧ p n ∧ Nat.count p n < k := by
        by_cases hn : p n
        · rcases Nat.lt_or_ge (Nat.count p n) k with hlt | hge
          · obtain ⟨m, hm⟩ := Nat.exists_eq_add_of_lt hlt
            have hroom : k - Nat.count p n = m + 1 := by omega
            simp [hn, hlt, hroom]
          · simp [hn, Nat.sub_eq_zero_of_le hge, Nat.not_lt.mpr hge]
        · simp [hn]
      rw [List.range_succ, List.filter_append, List.take_append, List.mem_append, ih,
        length_filter_range, hlast]
      constructor
      · rintro (⟨hlt, hi⟩ | ⟨rfl, hi⟩)
        · exact ⟨Nat.lt_succ_of_lt hlt, hi⟩
        · exact ⟨Nat.lt_succ_self i, hi⟩
      · rintro ⟨hlt, hi⟩
        rcases Nat.lt_succ_iff_lt_or_eq.mp hlt with hbefore | rfl
        · exact Or.inl ⟨hbefore, hi⟩
        · exact Or.inr ⟨rfl, hi⟩

end

section

variable {key : Nat → UInt8}

/-- One entry is before another: it has a smaller key, or the same key and an earlier place. -/
def Precedes (key : Nat → UInt8) (i j : Nat) : Prop := key i < key j ∨ key i = key j ∧ i ≤ j

theorem Precedes.antisymm {i j : Nat} (h : Precedes key i j) (h' : Precedes key j i) : i = j := by
  rcases h with hlt | ⟨heq, hle⟩
  · rcases h' with hlt' | ⟨heq', -⟩
    · exact absurd hlt' (UInt8.lt_asymm hlt)
    · exact absurd (heq' ▸ hlt) (UInt8.lt_irrefl _)
  · rcases h' with hlt' | ⟨-, hle'⟩
    · exact absurd (heq ▸ hlt') (UInt8.lt_irrefl _)
    · exact Nat.le_antisymm hle hle'

/-- A stable sort of ascending entries puts them in order. -/
theorem pairwise_precedes {entries : List Nat} (h : entries.Pairwise (· < ·)) :
    (entries.mergeSort fun i j => key i ≤ key j).Pairwise (Precedes key) := by
  have htrans (a b c : Nat) : decide (key a ≤ key b) = true → decide (key b ≤ key c) = true →
      decide (key a ≤ key c) = true := by
    simp only [decide_eq_true_eq]
    exact UInt8.le_trans
  have htotal (a b : Nat) : (decide (key a ≤ key b) || decide (key b ≤ key a)) = true := by
    rw [Bool.or_eq_true, decide_eq_true_eq, decide_eq_true_eq]
    exact UInt8.le_total _ _
  -- among entries with the same key the sort keeps the places, and these ascend with the entries
  have hplaces := List.pairwise_mergeSort (List.zipIdxLE_trans htrans) (List.zipIdxLE_total htotal)
    entries.zipIdx
  rw [← List.mergeSort_zipIdx, List.pairwise_map]
  refine hplaces.imp_of_mem fun {first second} hfirst hsecond hle => ?_
  obtain ⟨i, m⟩ := first
  obtain ⟨j, n⟩ := second
  obtain ⟨hm, rfl⟩ := List.getElem?_eq_some_iff.mp
    (List.mk_mem_zipIdx_iff_getElem?.mp (List.mem_mergeSort.mp hfirst))
  obtain ⟨hn, rfl⟩ := List.getElem?_eq_some_iff.mp
    (List.mk_mem_zipIdx_iff_getElem?.mp (List.mem_mergeSort.mp hsecond))
  simp only [List.zipIdxLE, decide_eq_true_eq] at hle
  split at hle
  · rename_i hkeys
    split at hle
    · rename_i hkeys'
      have hplace : m ≤ n := of_decide_eq_true hle
      have hascends : entries[m] ≤ entries[n] := by
        rcases Nat.lt_or_eq_of_le hplace with hlt | rfl
        · exact Nat.le_of_lt (List.pairwise_iff_getElem.mp h m n hm hn hlt)
        · exact Nat.le_refl _
      exact Or.inr ⟨UInt8.le_antisymm hkeys hkeys', hascends⟩
    · rename_i hkeys'
      exact Or.inl (UInt8.not_le.mp hkeys')
  · exact absurd hle Bool.false_ne_true

theorem find?_mergeSort_eq_some_iff {entries : List Nat} (h : entries.Pairwise (· < ·))
    {p : Nat → Bool} {i : Nat} :
    (entries.mergeSort fun i j => key i ≤ key j).find? p = some i ↔
      (i ∈ entries ∧ p i = true) ∧ ∀ j ∈ entries, p j = true → Precedes key i j := by
  have hfirst {i : Nat} (hfound : (entries.mergeSort fun i j => key i ≤ key j).find? p = some i) :
      (i ∈ entries ∧ p i = true) ∧ ∀ j ∈ entries, p j = true → Precedes key i j := by
    obtain ⟨hi, before, after, hsorted, hbefore⟩ := List.find?_eq_some_iff_append.mp hfound
    have hordered : (entries.mergeSort fun i j => key i ≤ key j).Pairwise (Precedes key) :=
      pairwise_precedes h
    rw [hsorted, List.pairwise_append, List.pairwise_cons] at hordered
    have hmem (j : Nat) : j ∈ entries ↔ j ∈ before ++ i :: after := by
      rw [← hsorted, List.mem_mergeSort]
    refine ⟨⟨(hmem i).mpr (by simp), hi⟩, fun j hj hpj => ?_⟩
    rcases List.mem_append.mp ((hmem j).mp hj) with hj | hj
    · exact absurd hpj (by simpa using hbefore j hj)
    · rcases List.mem_cons.mp hj with rfl | hj
      · exact Or.inr ⟨rfl, Nat.le_refl j⟩
      · exact hordered.2.1.1 j hj
  -- conversely the first match and the given entry precede each other
  refine ⟨hfirst, fun ⟨⟨hi, hpi⟩, hleast⟩ => ?_⟩
  cases hfound : (entries.mergeSort fun i j => key i ≤ key j).find? p with
  | none => exact absurd hpi (List.find?_eq_none.mp hfound i (List.mem_mergeSort.mpr hi))
  | some j =>
      obtain ⟨⟨hj, hpj⟩, hother⟩ := hfirst hfound
      rw [(hleast j hj hpj).antisymm (hother i hi hpi)]

end

namespace Memory

variable (memory : Memory)

/-! ## The objects of a line -/

/-- Object `i` of the table has a row on a line. -/
def OnLine (line i : Nat) : Prop :=
  let top : Int := (memory.sprite i).y.toNat - 16
  top ≤ line ∧ line < top + LcdControl.objectHeight memory.lcdControl

instance (line : Nat) : DecidablePred (memory.OnLine line) := fun _ =>
  inferInstanceAs (Decidable (_ ∧ _))

/-- Object `i` is among the first ten of the table on a line. -/
def Selected (line i : Nat) : Prop :=
  i < 40 ∧ memory.OnLine line i ∧ Nat.count (memory.OnLine line) i < 10

/-- The numbers of the objects drawn on a line, in the order of the table. -/
def selected (line : Nat) : List Nat :=
  ((List.range 40).filter fun i => decide (memory.OnLine line i)).take 10

theorem mem_selected (line i : Nat) : i ∈ memory.selected line ↔ memory.Selected line i :=
  mem_take_filter_range 40 10 i

theorem pairwise_selected (line : Nat) : (memory.selected line).Pairwise (· < ·) :=
  (List.pairwise_lt_range.filter _).sublist (List.take_sublist _ _)

theorem covers_eq (line i : Nat) :
    (memory.sprite i).covers (LcdControl.objectHeight memory.lcdControl) line =
      decide (memory.OnLine line i) := by
  unfold Sprite.covers OnLine
  rw [← Bool.decide_and]
  congr 1
  exact propext (by dsimp only; omega)

theorem chosenSprites_eq (line : Nat) :
    memory.chosenSprites line = (memory.selected line).map memory.sprite := by
  unfold chosenSprites selected
  dsimp only
  rw [List.filter_map, ← List.map_take]
  congr 2
  exact List.filter_congr fun i _ => memory.covers_eq line i

/-- The column of an object, as far as it decides which one is in front. -/
def objectX (i : Nat) : UInt8 := (memory.sprite i).x

theorem spritesOn_eq (hobjects : bit memory.lcdControl 1 = true) (line : Nat) :
    memory.spritesOn line =
      ((memory.selected line).mergeSort fun i j =>
        memory.objectX i ≤ memory.objectX j).map memory.sprite := by
  rw [spritesOn, LcdControl.objectsEnabled, hobjects, if_pos rfl, chosenSprites_eq,
    List.map_mergeSort]
  exact fun _ _ _ _ => rfl

/-! ## The colours of an object -/

/-- Object `i` has a pixel in a column. -/
def InColumn (x i : Nat) : Prop :=
  let left : Int := (memory.sprite i).x.toNat - 8
  left ≤ x ∧ x < left + 8

/-- The first cell of the tiles of object `i`; those of a tall object begin with an even number. -/
def objectStart (i : Nat) : Nat :=
  let number := (memory.sprite i).tile.toNat
  0x8000 +
    16 * (if LcdControl.objectHeight memory.lcdControl = 16 then 2 * (number / 2) else number)

/-- The row of object `i`, before and after it is flipped, on a line that it covers. -/
def objectRow (line i : Nat) : Nat :=
  let row := line + 16 - (memory.sprite i).y.toNat
  if bit (memory.sprite i).attributes 6 then LcdControl.objectHeight memory.lcdControl - 1 - row
  else row

/-- The column of object `i` that lies in column `x` of the screen. -/
def objectColumn (x i : Nat) : Nat :=
  let column := x + 8 - (memory.sprite i).x.toNat
  if bit (memory.sprite i).attributes 5 then 7 - column else column

/-- The colour number of object `i` at a place that it covers; zero is transparent. -/
def objectColour (line x i : Nat) : Nat :=
  memory.tileColour (memory.objectStart i) (memory.objectColumn x i) (memory.objectRow line i)

/-- Object `i` is drawn on a line and has a colour in column `x`. -/
structure Candidate (line x i : Nat) : Prop where
  selected : memory.Selected line i
  inColumn : memory.InColumn x i
  visible : memory.objectColour line x i ≠ 0

/-- The candidate in front of all others. -/
structure Foremost (line x i : Nat) : Prop where
  candidate : memory.Candidate line x i
  precedes : ∀ j, memory.Candidate line x j → Precedes memory.objectX i j

theorem spans_iff (x i : Nat) : (memory.sprite i).spans x = true ↔ memory.InColumn x i := by
  unfold Sprite.spans InColumn
  rw [Bool.and_eq_true, decide_eq_true_iff, decide_eq_true_iff]
  dsimp only
  omega

/-- Without its lowest bit a number is even. -/
theorem toNat_and_FE (number : UInt8) : (number &&& 0xFE).toNat = 2 * (number.toNat / 2) := by
  have hlt := number.toNat_lt
  have hand : (number &&& 0xFE).toNat = number.toNat &&& 254 := rfl
  have heven : (number.toNat &&& 254) % 2 = 0 := by
    rw [Nat.and_mod_two_pow (n := 1)]
    exact Nat.and_zero _
  have hhalf : (number.toNat &&& 254) / 2 = number.toNat / 2 := by
    rw [Nat.and_div_two, show 254 / 2 = 2 ^ 7 - 1 by rfl, Nat.and_two_pow_sub_one_eq_mod,
      Nat.mod_eq_of_lt (by omega)]
  omega

theorem rowAddress_sprite (line i : Nat) :
    (memory.sprite i).rowAddress (LcdControl.objectHeight memory.lcdControl) line =
      memory.objectStart i + 2 * memory.objectRow line i := by
  rw [Sprite.rowAddress, apply_ite UInt8.toNat, toNat_and_FE]
  rfl

theorem colour_sprite {x i : Nat} (line : Nat) (hcolumn : memory.InColumn x i) :
    (memory.sprite i).colour memory (LcdControl.objectHeight memory.lcdControl) line x =
      memory.objectColour line x i := by
  have hle : x + 8 - (memory.sprite i).x.toNat ≤ 7 := by
    unfold InColumn at hcolumn
    dsimp only at hcolumn
    omega
  -- columns are counted from the left, the bits of a plane from the right
  have hposition : 7 - memory.objectColumn x i =
      if (memory.sprite i).flipsX then x + 8 - (memory.sprite i).x.toNat
      else 7 - (x + 8 - (memory.sprite i).x.toNat) := by
    rw [objectColumn, Sprite.flipsX]
    split
    · exact Nat.sub_sub_self hle
    · rfl
  rw [Sprite.colour, if_pos ((memory.spans_iff x i).mpr hcolumn), rowAddress_sprite, objectColour,
    tileColour, hposition]

/-- An object shows where it is a candidate. -/
theorem candidate_iff (line x i : Nat) :
    memory.Candidate line x i ↔ i ∈ memory.selected line ∧
      ((memory.sprite i).colour memory (LcdControl.objectHeight memory.lcdControl) line x != 0) =
        true := by
  rw [mem_selected, bne_iff_ne]
  constructor
  · rintro ⟨hselected, hcolumn, hvisible⟩
    exact ⟨hselected, by rwa [colour_sprite memory line hcolumn]⟩
  · rintro ⟨hselected, hvisible⟩
    have hcolumn : memory.InColumn x i := by
      -- outside its columns an object has no colour
      by_contra hoff
      rw [Sprite.colour, if_neg (fun hspans => hoff ((memory.spans_iff x i).mp hspans))] at hvisible
      exact hvisible rfl
    exact ⟨hselected, hcolumn, by rwa [colour_sprite memory line hcolumn] at hvisible⟩

/-- The number of the object that is drawn first at a place. -/
def foremost? (line x : Nat) : Option Nat :=
  ((memory.selected line).mergeSort fun i j => memory.objectX i ≤ memory.objectX j).find? fun i =>
    (memory.sprite i).colour memory (LcdControl.objectHeight memory.lcdControl) line x != 0

theorem find?_spritesOn (hobjects : bit memory.lcdControl 1 = true) (line x : Nat) :
    ((memory.spritesOn line).find? fun object =>
        object.colour memory (LcdControl.objectHeight memory.lcdControl) line x != 0) =
      (memory.foremost? line x).map memory.sprite := by
  rw [spritesOn_eq memory hobjects, List.find?_map]
  rfl

variable {memory} {line x i j : Nat}

theorem foremost?_eq_some_iff : memory.foremost? line x = some i ↔ memory.Foremost line x i := by
  rw [foremost?, find?_mergeSort_eq_some_iff (memory.pairwise_selected line), ← candidate_iff]
  constructor
  · rintro ⟨hcandidate, hprecedes⟩
    refine ⟨hcandidate, fun j hj => ?_⟩
    obtain ⟨hselected, hvisible⟩ := (memory.candidate_iff line x j).mp hj
    exact hprecedes j hselected hvisible
  · rintro ⟨hcandidate, hprecedes⟩
    exact ⟨hcandidate, fun j hselected hvisible =>
      hprecedes j ((memory.candidate_iff line x j).mpr ⟨hselected, hvisible⟩)⟩

theorem Candidate.exists_foremost (h : memory.Candidate line x i) :
    ∃ j, memory.foremost? line x = some j := by
  obtain ⟨hselected, hvisible⟩ := (memory.candidate_iff line x i).mp h
  cases hfound : memory.foremost? line x with
  | none =>
      exact absurd hvisible (List.find?_eq_none.mp hfound i (List.mem_mergeSort.mpr hselected))
  | some j => exact ⟨j, rfl⟩

theorem foremost?_eq_none (h : ∀ i, ¬ memory.Candidate line x i) :
    memory.foremost? line x = none := by
  cases hfound : memory.foremost? line x with
  | none => rfl
  | some i => exact absurd (foremost?_eq_some_iff.mp hfound).candidate (h i)

theorem Foremost.unique (h : memory.Foremost line x i) (h' : memory.Foremost line x j) : i = j :=
  (h.precedes j h'.candidate).antisymm (h'.precedes i h.candidate)

/-! ## Pixels -/

section

variable (hobjects : bit memory.lcdControl 1 = true) (windowLine : UInt8) (hx : x < Frame.width)
include hobjects hx

theorem pixel_of_no_candidate (hnone : ∀ i, ¬ memory.Candidate line x i) :
    memory.pixel (memory.spritesOn line) windowLine line x =
      shade (memory.read Address.backgroundPalette) (memory.backdrop windowLine line x) := by
  unfold pixel
  dsimp only
  rw [find?_spritesOn memory hobjects, foremost?_eq_none hnone, memory.underlay_eq _ _ hx]
  rfl

theorem pixel_of_foremost (hi : memory.Foremost line x i) :
    memory.pixel (memory.spritesOn line) windowLine line x =
      if bit (memory.sprite i).attributes 7 = true ∧ memory.backdrop windowLine line x ≠ 0 then
        shade (memory.read Address.backgroundPalette) (memory.backdrop windowLine line x)
      else
        shade (memory.read (if bit (memory.sprite i).attributes 4 then Address.objectPalette1
          else Address.objectPalette0)) (memory.objectColour line x i) := by
  have hbehind : ((memory.sprite i).isBehind && memory.backdrop windowLine line x != 0) = true ↔
      bit (memory.sprite i).attributes 7 = true ∧ memory.backdrop windowLine line x ≠ 0 := by
    rw [Bool.and_eq_true, bne_iff_ne, Sprite.isBehind]
  unfold pixel
  dsimp only
  rw [find?_spritesOn memory hobjects, foremost?_eq_some_iff.mpr hi, memory.underlay_eq _ _ hx,
    ← colour_sprite memory line hi.candidate.inColumn]
  exact if_congr hbehind rfl rfl

end

end Memory

/-- **The foremost object shows.**  Of the first ten objects on a line, those with a colour at a
place are its candidates, and the one furthest to the left is the foremost, or the earliest in the
table among equals.  Without a candidate the place shows what lies below the objects; otherwise the
foremost alone decides, so that one behind the background still hides the others. -/
theorem Ppu.drawRow_of_objects (ppu : Ppu) {memory : Memory}
    (hobjects : bit memory.lcdControl 1 = true) {line : Nat} (hline : line < Frame.height) {x : Nat}
    (hx : x < Frame.width) :
    let pixel := (ppu.drawRow memory line).frame[line][x]
    let under := memory.backdrop ppu.windowLine line x
    let underShade := shade (memory.read Address.backgroundPalette) under
    ((∀ i, ¬ memory.Candidate line x i) → pixel = underShade) ∧
    (∀ i, memory.Candidate line x i → ∃! j, memory.Foremost line x j) ∧
    (∀ i, memory.Foremost line x i → pixel =
      if bit (memory.sprite i).attributes 7 = true ∧ under ≠ 0 then underShade
      else shade (memory.read (if bit (memory.sprite i).attributes 4 then Address.objectPalette1
        else Address.objectPalette0)) (memory.objectColour line x i)) ∧
    (∀ i j, memory.Foremost line x i → memory.Candidate line x j →
      bit (memory.sprite i).attributes 7 = true → under ≠ 0 → pixel = underShade) := by
  dsimp only
  rw [getElem_drawRow ppu memory hline hx]
  have hforemost {i : Nat} (hi : memory.Foremost line x i) :=
    Memory.pixel_of_foremost hobjects ppu.windowLine hx hi
  refine ⟨Memory.pixel_of_no_candidate hobjects _ hx, fun i hi => ?_, fun i hi => hforemost hi,
    fun i j hi _ hbehind hunder => ?_⟩
  · obtain ⟨j, hj⟩ := hi.exists_foremost
    have hfirst := Memory.foremost?_eq_some_iff.mp hj
    exact ⟨j, hfirst, fun k hk => hk.unique hfirst⟩
  · rw [hforemost hi, if_pos ⟨hbehind, hunder⟩]

/-- A memory in which two tall objects overlap on line 0: the one further to the left comes second
in the table and lies behind the background, which covers the line. -/
def overlappingMemory : Memory :=
  [⟨Address.lcdControl, 0x97⟩, ⟨Address.backgroundPalette, 0xE4⟩, ⟨0x8000, 0xFF⟩, ⟨0xFE00, 16⟩,
    ⟨0xFE01, 12⟩, ⟨0xFE02, 0x21⟩, ⟨0xFE03, 0x40⟩, ⟨0x821F, 0xFF⟩, ⟨0xFE04, 16⟩, ⟨0xFE05, 10⟩,
    ⟨0xFE06, 0x10⟩, ⟨0xFE07, 0x80⟩, ⟨0x8100, 0xFF⟩].foldl
      (fun memory (w : Write) => memory.store w.address w.value) .blank

theorem read_overlappingMemory (address : UInt16) :
    overlappingMemory.read address =
      if address = 0x8100 then 0xFF else if address = 0xFE07 then 0x80
      else if address = 0xFE06 then 0x10 else if address = 0xFE05 then 10
      else if address = 0xFE04 then 16 else if address = 0x821F then 0xFF
      else if address = 0xFE03 then 0x40 else if address = 0xFE02 then 0x21
      else if address = 0xFE01 then 12 else if address = 0xFE00 then 16
      else if address = 0x8000 then 0xFF else if address = Address.backgroundPalette then 0xE4
      else if address = Address.lcdControl then 0x97 else 0 := by
  simp only [overlappingMemory, List.foldl_cons, List.foldl_nil, Memory.read_store,
    Memory.read_blank, eq_comm]

theorem lcdControl_overlappingMemory : overlappingMemory.lcdControl = 0x97 := by
  rw [Memory.lcdControl, read_overlappingMemory]
  decide

theorem sprite_overlapping_zero : overlappingMemory.sprite 0 = ⟨16, 12, 0x21, 0x40⟩ := by
  simp only [Memory.sprite, Memory.cell, read_overlappingMemory]
  decide

theorem sprite_overlapping_one : overlappingMemory.sprite 1 = ⟨16, 10, 0x10, 0x80⟩ := by
  simp only [Memory.sprite, Memory.cell, read_overlappingMemory]
  decide

theorem lt_two_of_onLine_overlapping {i : Nat} (hi : i < 40)
    (h : overlappingMemory.OnLine 0 i) : i < 2 := by
  -- the other entries are empty, which puts them above the screen
  have habove : ∀ i < 40, 2 ≤ i → overlappingMemory.cell (0xFE00 + 4 * i) = 0 := by
    simp only [Memory.cell, read_overlappingMemory]
    decide
  by_contra hge
  have hy : (overlappingMemory.sprite i).y = 0 := habove i hi (Nat.le_of_not_lt hge)
  have hheight := LcdControl.objectHeight_le overlappingMemory.lcdControl
  rw [Memory.OnLine, hy] at h
  have hshown : (0 : Int) < 0 - 16 + LcdControl.objectHeight overlappingMemory.lcdControl := h.2
  omega

theorem objectColour_overlapping_zero : overlappingMemory.objectColour 0 4 0 = 2 := by
  have hstart : overlappingMemory.objectStart 0 = 0x8200 := by
    rw [Memory.objectStart, sprite_overlapping_zero, lcdControl_overlappingMemory]
    decide
  have hcolumn : overlappingMemory.objectColumn 4 0 = 0 := by
    rw [Memory.objectColumn, sprite_overlapping_zero]
    decide
  have hrow : overlappingMemory.objectRow 0 0 = 15 := by
    rw [Memory.objectRow, sprite_overlapping_zero, lcdControl_overlappingMemory]
    decide
  rw [Memory.objectColour, hstart, hcolumn, hrow, Memory.tileColour]
  simp only [Memory.cell, read_overlappingMemory]
  decide

theorem objectColour_overlapping_one : overlappingMemory.objectColour 0 4 1 = 1 := by
  have hstart : overlappingMemory.objectStart 1 = 0x8100 := by
    rw [Memory.objectStart, sprite_overlapping_one, lcdControl_overlappingMemory]
    decide
  have hcolumn : overlappingMemory.objectColumn 4 1 = 2 := by
    rw [Memory.objectColumn, sprite_overlapping_one]
    decide
  have hrow : overlappingMemory.objectRow 0 1 = 0 := by
    rw [Memory.objectRow, sprite_overlapping_one]
    decide
  rw [Memory.objectColour, hstart, hcolumn, hrow, Memory.tileColour]
  simp only [Memory.cell, read_overlappingMemory]
  decide

theorem candidate_overlapping_zero : overlappingMemory.Candidate 0 4 0 := by
  refine ⟨⟨by decide, ?_, by decide⟩, ?_, ?_⟩
  · rw [Memory.OnLine, sprite_overlapping_zero, lcdControl_overlappingMemory]
    decide
  · rw [Memory.InColumn, sprite_overlapping_zero]
    decide
  · rw [objectColour_overlapping_zero]
    decide

theorem candidate_overlapping_one : overlappingMemory.Candidate 0 4 1 := by
  refine ⟨⟨by decide, ?_, Nat.lt_of_le_of_lt (Nat.count_le _) (by decide : 1 < 10)⟩, ?_, ?_⟩
  · rw [Memory.OnLine, sprite_overlapping_one, lcdControl_overlappingMemory]
    decide
  · rw [Memory.InColumn, sprite_overlapping_one]
    decide
  · rw [objectColour_overlapping_one]
    decide

theorem foremost_overlapping_one : overlappingMemory.Foremost 0 4 1 := by
  refine ⟨candidate_overlapping_one, fun j hj => ?_⟩
  have hlt := lt_two_of_onLine_overlapping hj.selected.1 hj.selected.2.1
  obtain rfl | rfl : j = 0 ∨ j = 1 := by omega
  · refine Or.inl ?_
    rw [Memory.objectX, Memory.objectX, sprite_overlapping_zero, sprite_overlapping_one]
    decide
  · exact Or.inr ⟨rfl, Nat.le_refl 1⟩

/-- The object in front is hidden by the background, and hides the other one nevertheless. -/
theorem drawRow_of_objects_overlapping :
    (bit overlappingMemory.lcdControl 1 = true ∧ 0 < Frame.height ∧ 4 < Frame.width) ∧
      (overlappingMemory.Candidate 0 4 0 ∧ overlappingMemory.Foremost 0 4 1) ∧
      (Ppu.powerOn.drawRow overlappingMemory 0).frame[0][4] = 1 := by
  have hobjects : bit overlappingMemory.lcdControl 1 = true := by
    rw [lcdControl_overlappingMemory]
    decide
  have hplane : (overlappingMemory.plane 0x9800).colour (8 * 0 + 4) (8 * 0 + 0) = 1 := by
    rw [overlappingMemory.colour_plane 0x9800 (by decide) (by decide) (by decide) (by decide)]
    simp only [Memory.tileColour, Memory.tileStart, lcdControl_overlappingMemory, Memory.cell,
      read_overlappingMemory]
    decide
  have hunder : overlappingMemory.backdrop Ppu.powerOn.windowLine 0 4 = 1 := by
    have hlayers : ¬ bit 0x97 0 = false := by decide
    have hwindow : ¬ (overlappingMemory.ShowsWindow 0 ∧
        (overlappingMemory.read Address.windowX).toNat ≤ 4 + 7) := by
      rw [Memory.ShowsWindow, lcdControl_overlappingMemory]
      exact fun hshown => absurd hshown.1.1 (by decide)
    have hscroll : overlappingMemory.read Address.scrollX = 0 ∧
        overlappingMemory.read Address.scrollY = 0 := by
      rw [read_overlappingMemory, read_overlappingMemory]
      decide
    rw [Memory.backdrop, lcdControl_overlappingMemory, if_neg hlayers, if_neg hwindow, hscroll.1,
      hscroll.2]
    exact hplane
  have hbehind : bit (overlappingMemory.sprite 1).attributes 7 = true := by
    rw [sprite_overlapping_one]
    decide
  obtain ⟨-, -, -, hhidden⟩ := Ppu.drawRow_of_objects Ppu.powerOn hobjects
    (by decide : 0 < Frame.height) (by decide : 4 < Frame.width)
  refine ⟨⟨hobjects, by decide, by decide⟩,
    ⟨candidate_overlapping_zero, foremost_overlapping_one⟩, ?_⟩
  -- object 1 stays behind the background and still keeps object 0 from showing
  rw [hhidden 1 0 foremost_overlapping_one candidate_overlapping_zero hbehind
    (by rw [hunder]; decide), hunder, read_overlappingMemory]
  decide

end GameBoy
