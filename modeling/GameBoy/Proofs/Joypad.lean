import GameBoy.Joypad.Basic
import GameBoy.Proofs.Bits

/-!
# The keys behind the joypad register

A key is down, `Joypad.isDown`, when its line is low in the lines of its group.  Pressing and
releasing change that of one key only, and the low nibble of the register shows it: a line of the
register is low exactly if some key on it is down whose group is selected, `bit_nibble` and
`bit_visible`.
-/

namespace GameBoy

/-! ## Lines -/

namespace Key

theorem line_lt (key : Key) : key.line < 4 := by
  cases key <;> decide

/-- A key is given by its group and its line. -/
theorem eq_of_line {key other : Key} (hgroup : key.group = other.group)
    (hline : key.line = other.line) : key = other := by
  revert hgroup hline
  cases key <;> cases other <;> decide

theorem exists_line (group : KeyGroup) {line : Nat} (h : line < 4) :
    ∃ key : Key, key.group = group ∧ key.line = line := by
  cases group with
  | buttons =>
      have hbuttons : ∀ line < 4, ∃ key ∈ [a, b, select, start],
          key.group = .buttons ∧ key.line = line := by decide
      obtain ⟨key, -, hkey⟩ := hbuttons line h
      exact ⟨key, hkey⟩
  | directions =>
      have hdirections : ∀ line < 4, ∃ key ∈ [right, left, up, down],
          key.group = .directions ∧ key.line = line := by decide
      obtain ⟨key, -, hkey⟩ := hdirections line h
      exact ⟨key, hkey⟩

theorem bit_mask (key : Key) (i : Nat) : bit key.mask i = decide (i = key.line) := by
  have hmask : key.mask.toNat = 2 ^ key.line := by cases key <;> rfl
  rw [bit, hmask, Nat.testBit_two_pow]
  simp only [eq_comm]

end Key

namespace Joypad

variable (joypad : Joypad)

/-- Whether a key is down, which pulls its line low. -/
def isDown (key : Key) : Bool := !bit (joypad.lines key.group) key.line

theorem lines_setLines (lines : UInt8) (group other : KeyGroup) :
    (joypad.setLines lines group).lines other =
      if group = other then lines else joypad.lines other := by
  cases group <;> cases other <;> rfl

@[simp] theorem select_press (key : Key) : (joypad.press key).select = joypad.select := by
  cases key <;> rfl

@[simp] theorem select_release (key : Key) : (joypad.release key).select = joypad.select := by
  cases key <;> rfl

@[simp] theorem isDown_writeSelect (value : UInt8) (key : Key) :
    (joypad.writeSelect value).isDown key = joypad.isDown key := by
  cases key <;> rfl

theorem isDown_press (key other : Key) :
    (joypad.press key).isDown other = (decide (other = key) || joypad.isDown other) := by
  have hline := Nat.lt_trans other.line_lt (by decide : 4 < 8)
  unfold isDown press
  rw [lines_setLines]
  -- within a group a key is told by its line, and other groups are left alone
  by_cases hgroup : key.group = other.group
  · have hkey : other.line = key.line ↔ other = key :=
      ⟨Key.eq_of_line hgroup.symm, congrArg Key.line⟩
    rw [if_pos hgroup, bit_and, bit_not _ hline, key.bit_mask, hgroup, decide_eq_decide.mpr hkey,
      Bool.not_and, Bool.not_not, Bool.or_comm]
  · have hne : other ≠ key := fun heq => hgroup (congrArg Key.group heq.symm)
    rw [if_neg hgroup, decide_eq_false hne, Bool.false_or]

theorem isDown_release (key other : Key) :
    (joypad.release key).isDown other = (!decide (other = key) && joypad.isDown other) := by
  unfold isDown release
  rw [lines_setLines]
  by_cases hgroup : key.group = other.group
  · have hkey : other.line = key.line ↔ other = key :=
      ⟨Key.eq_of_line hgroup.symm, congrArg Key.line⟩
    rw [if_pos hgroup, bit_or, key.bit_mask, hgroup, decide_eq_decide.mpr hkey, Bool.not_or,
      Bool.and_comm]
  · have hne : other ≠ key := fun heq => hgroup (congrArg Key.group heq.symm)
    rw [if_neg hgroup, decide_eq_false hne, Bool.not_false, Bool.true_and]

theorem pressAlerts_eq (key : Key) :
    joypad.pressAlerts key = (!joypad.isDown key && joypad.isSelected key.group) := by
  rw [pressAlerts, isDown, Bool.not_not]

/-! ## The register -/

/-- The lines that software reads of a group. -/
def visible (group : KeyGroup) : UInt8 :=
  if joypad.isSelected group then joypad.lines group else 0x0F

/-- The lines that software reads, in the low nibble. -/
def nibble : UInt8 := 0x0F &&& joypad.visible .directions &&& joypad.visible .buttons

theorem register_eq : joypad.register = 0xC0 ||| joypad.select ||| joypad.nibble := rfl

theorem nibble_lt : joypad.nibble < 16 := by
  have hle : joypad.nibble.toNat ≤ 15 := by
    rw [nibble, UInt8.toNat_and, UInt8.toNat_and]
    exact Nat.le_trans Nat.and_le_left Nat.and_le_left
  exact UInt8.lt_iff_toNat_lt.mpr (Nat.lt_succ_of_le hle)

/-- What is seen of a group is low where one of its keys is down, if the group is selected. -/
theorem bit_visible {i : Nat} (hi : i < 4) (group : KeyGroup) :
    bit (joypad.visible group) i = false ↔
      joypad.isSelected group = true ∧
        ∃ key : Key, key.group = group ∧ key.line = i ∧ joypad.isDown key = true := by
  have hlines : (∃ key : Key, key.group = group ∧ key.line = i ∧ joypad.isDown key = true) ↔
      bit (joypad.lines group) i = false := by
    constructor
    · rintro ⟨key, rfl, rfl, hdown⟩
      simpa [isDown] using hdown
    · intro hlow
      obtain ⟨key, rfl, rfl⟩ := Key.exists_line group hi
      exact ⟨key, rfl, rfl, by simp [isDown, hlow]⟩
  -- a group that is not selected leaves its lines up
  have hidle : bit 0x0F i = true :=
    (by decide : ∀ i < 4, bit 0x0F i = true) i hi
  rw [hlines]
  unfold visible
  cases joypad.isSelected group with
  | true => simp
  | false => simp [hidle]

/-- The groups share the lines, so either of them may pull one low. -/
theorem bit_nibble {i : Nat} (hi : i < 4) :
    bit joypad.nibble i = false ↔
      bit (joypad.visible .directions) i = false ∨ bit (joypad.visible .buttons) i = false := by
  have hidle : bit 0x0F i = true :=
    (by decide : ∀ i < 4, bit 0x0F i = true) i hi
  rw [nibble, bit_and, bit_and, hidle, Bool.true_and, Bool.and_eq_false_iff]

end Joypad

end GameBoy
