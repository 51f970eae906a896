import GameBoy.Cpu.Text
import GameBoy.Journal.Entry
import GameBoy.Text.ControlSequence

/-!
# Texts without controls

Control sequences are taken out of the log, so only a text that has no controls is sure to stay as
it is.  The parts that entries are put together from have none: numbers, whether decimal or
hexadecimal, and quoted text, in which a control stands by its number.  Hence a line of registers
is `Plain`, `plain_doctorLine`, and so are the reports on images and opcodes.
-/

namespace GameBoy.ControlSequence

/-- A text that has no controls but white space. -/
def Plain (text : String) : Prop := text.toList.all isPlain = true

instance (text : String) : Decidable (Plain text) := inferInstanceAs (Decidable (_ = true))

theorem strip_of_plain {text : String} (h : Plain text) : strip text = text :=
  strip_eq_self (List.all_eq_true.mp h)

theorem plain_append {first second : String} :
    Plain (first ++ second) ↔ Plain first ∧ Plain second := by
  rw [Plain, String.toList_append, List.all_append, Bool.and_eq_true]
  rfl

theorem plain_ofList {content : List Char} :
    Plain (String.ofList content) ↔ content.all isPlain = true := by
  rw [Plain, String.toList_ofList]

/-! ## Numbers -/

theorem isPlain_digit {value : Nat} (h : value < 16) : isPlain (Hex.digit value) = true := by
  have hall : ∀ value < 16, isPlain (Hex.digit value) = true := by decide
  exact hall value h

theorem isPlain_digitChar {value : Nat} (h : value < 16) :
    isPlain (Nat.digitChar value) = true := by
  have hall : ∀ value < 16, isPlain (Nat.digitChar value) = true := by decide
  exact hall value h

theorem all_digits (width value : Nat) : (Hex.digits width value).all isPlain = true := by
  induction width generalizing value with
  | zero => rfl
  | succ width ih =>
      rw [Hex.digits, List.all_append, ih, Bool.true_and, List.all_cons, List.all_nil,
        Bool.and_true]
      exact isPlain_digit (Nat.mod_lt _ (by decide))

theorem plain_byte (value : UInt8) : Plain (Hex.byte value) :=
  plain_ofList.mpr (all_digits 2 _)

theorem plain_word (value : UInt16) : Plain (Hex.word value) :=
  plain_ofList.mpr (all_digits 4 _)

theorem all_toDigits {base : Nat} (hbase : 1 < base) (hle : base ≤ 16) (n : Nat) :
    (Nat.toDigits base n).all isPlain = true := by
  -- by strong induction: the digits are those of the quotient and one more
  induction n using Nat.strongRecOn with
  | ind n ih =>
      rw [Nat.toDigits_eq_if hbase]
      split
      · rename_i hlt
        rw [List.all_cons, List.all_nil, Bool.and_true]
        exact isPlain_digitChar (Nat.lt_of_lt_of_le hlt hle)
      · rename_i hge
        have hpos : 0 < n := by omega
        have hdigit : n % base < base := Nat.mod_lt _ (by omega)
        rw [List.all_append, ih _ (Nat.div_lt_self hpos hbase), Bool.true_and, List.all_cons,
          List.all_nil, Bool.and_true]
        exact isPlain_digitChar (Nat.lt_of_lt_of_le hdigit hle)

theorem plain_repr (n : Nat) : Plain n.repr := by
  rw [Plain, Nat.toList_repr]
  exact all_toDigits (by decide) (by decide) n

/-! ## Quoted text -/

/-- A control does not show. -/
theorem isUnprintable_of_not_isPlain {c : Char} (h : isPlain c = false) :
    isUnprintable c = true := by
  -- the characters that are not plain are those below 0x20 and 0x7F
  have hlow : ∀ n < 0x20, (Unprintable.boundaries.takeWhile (· ≤ n)).length % 2 = 1 := by decide
  have hdelete : (Unprintable.boundaries.takeWhile (· ≤ 0x7F)).length % 2 = 1 := by decide
  rw [isPlain, Bool.or_eq_false_iff, Bool.and_eq_false_iff, decide_eq_false_iff_not,
    decide_eq_false_iff_not, Decidable.not_not] at h
  rw [isUnprintable, beq_iff_eq]
  rcases h.2 with hcontrol | rfl
  · exact hlow c.toNat (Char.not_le.mp hcontrol)
  · exact hdelete

theorem all_numbered (c : Char) : (Quoted.numbered c).all isPlain = true := by
  rw [Quoted.numbered, List.all_append, List.all_append,
    all_toDigits (by decide) (by decide), Bool.and_true]
  rfl

theorem all_escape (c : Char) : (Quoted.escape c).all isPlain = true := by
  -- of the forms that an escape takes, only the last two depend on the character
  fun_cases Quoted.escape c
  case case7 hcontrol _ _ _ _ _ _ =>
    rw [if_pos hcontrol]
    exact all_numbered c
  case case8 hshown _ _ _ _ _ _ =>
    rw [if_neg hshown, List.all_cons, List.all_nil, Bool.and_true]
    exact Bool.of_not_eq_false fun hcontrol => hshown (isUnprintable_of_not_isPlain hcontrol)
  all_goals rfl

theorem plain_quoted (content : String) : Plain (Quoted.text content) := by
  have hcontent : (content.toList.flatMap Quoted.escape).all isPlain = true := by
    rw [List.all_flatMap, List.all_eq_true]
    exact fun c _ => all_escape c
  rw [Quoted.text, plain_ofList, List.all_append, List.all_append, hcontent, Bool.and_true]
  rfl

/-! ## Lines of the log -/

theorem plain_doctorLine (cpu : Cpu) (memory : Memory) : Plain (cpu.doctorLine memory) := by
  unfold Cpu.doctorLine Cpu.registersText
  simp only [toString, plain_append, plain_byte, plain_word, and_true]
  decide

theorem plain_illegalOpcode (opcode : UInt8) (pc : UInt16) :
    Plain (Entry.illegalOpcode opcode pc).message := by
  show Plain s!"Illegal opcode {Hex.byte opcode} at 0x{Hex.word pc}, treated as NOP"
  simp only [toString, plain_append, plain_byte, plain_word, and_true]
  decide

theorem plain_oversizedImage (size : Nat) : Plain (Entry.oversizedImage size).message := by
  show Plain s!"ROM is {size} bytes, only the first 65536 are addressable without a bank controller"
  simp only [toString, plain_append, plain_repr, and_true]
  decide

theorem plain_imageRead (path : String) (size : Nat) :
    Plain (Entry.imageRead path size).message := by
  show Plain s!"Loaded ROM {Quoted.text path} ({size} bytes)"
  simp only [toString, plain_append]
  exact ⟨⟨⟨⟨by decide, plain_quoted path⟩, by decide⟩, plain_repr size⟩, by decide⟩

end GameBoy.ControlSequence
