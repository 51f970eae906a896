import GameBoy.Proofs.Bus.Keys

/-!
# Presses and falling lines

A press requests an interrupt when the line of its key falls, as the joypad sees it: within the
group of the key.  Software sees the groups together, four lines that each belong to a button and
to a direction.  There a line falls only if it was not low already, so the two views part where the
other key of the line is held and both groups are selected: such a press is `Masked`.

`Follows.lineLow_iff` reads the lines of the register off a history.  From it follow the lines that
a press pulls down, `Follows.falls_press_iff`, and then what the requests have to do with them,
`requested_iff_falls`.
-/

namespace GameBoy

/-- The key of the other group on the same line. -/
def Key.twin : Key → Key
  | a => right
  | b => left
  | select => up
  | start => down
  | right => a
  | left => b
  | up => select
  | down => start

namespace Key

theorem line_twin (key : Key) : key.twin.line = key.line := by
  cases key <;> rfl

/-- A line has two keys. -/
theorem line_eq_iff {other key : Key} :
    other.line = key.line ↔ other = key ∨ other = key.twin := by
  cases key <;> cases other <;> decide

end Key

namespace Bus

/-! ## Lines of the register -/

/-- A line of the joypad register, as software reads it, is low. -/
def LineLow (bus : Bus) (line : Nat) : Prop := bit (bus.memory.read Address.joypad) line = false

/-- A line of the register is high at first and low in the end. -/
def Falls (before after : Bus) (line : Nat) : Prop := ¬ before.LineLow line ∧ after.LineLow line

/-- The group of a key was selected when the register was written last. -/
def Selected (history : List Access) (key : Key) : Prop :=
  bit (selection history) (Joypad.selectBit key.group) = false

/-- A key that is up shares its line with one that is held, and both groups are selected. -/
structure Masked (history : List Access) (key : Key) : Prop where
  up : held history key = false
  twin_held : held history key.twin = true
  selected : Selected history key
  twin_selected : Selected history key.twin

/-- Below the select bits there are only lines. -/
theorem bit_register {joypad : Joypad} {byte : UInt8} (hselect : joypad.select = byte &&& 0x30)
    {line : Nat} (hline : line < 4) : bit joypad.register line = bit joypad.nibble line := by
  have htop : ∀ line < 4, bit 0xC0 line = false := by decide
  have hmiddle : ∀ line < 4, bit 0x30 line = false := by decide
  rw [Joypad.register_eq, hselect, bit_or, bit_or, bit_and, htop line hline, hmiddle line hline,
    Bool.and_false, Bool.false_or, Bool.false_or]

namespace Follows

variable {history : List Access} {bus : Bus} {key : Key}

/-- A line is low exactly if some key on it is held whose group is selected. -/
theorem lineLow_iff (h : Follows history bus) {line : Nat} (hline : line < 4) :
    bus.LineLow line ↔
      ∃ key : Key, key.line = line ∧ held history key = true ∧ Selected history key := by
  -- a group pulls a line down by its keys, if it is selected
  have hgroup (group : KeyGroup) : bit (bus.joypad.visible group) line = false ↔
      ∃ key : Key, key.group = group ∧ key.line = line ∧ held history key = true ∧
        Selected history key := by
    rw [bus.joypad.bit_visible hline, h.isSelected_eq, Bool.not_eq_true']
    simp only [h.isDown_eq]
    constructor
    · rintro ⟨hselected, key, rfl, hkey, hheld⟩
      exact ⟨key, rfl, hkey, hheld, hselected⟩
    · rintro ⟨key, rfl, hkey, hheld, hselected⟩
      exact ⟨hselected, key, rfl, hkey, hheld⟩
  rw [LineLow, h.shown, bit_register h.select_eq hline, bus.joypad.bit_nibble hline, hgroup, hgroup]
  constructor
  · rintro (⟨key, -, hkey⟩ | ⟨key, -, hkey⟩) <;> exact ⟨key, hkey⟩
  · rintro ⟨key, hkey⟩
    cases hkeyGroup : key.group with
    | directions => exact .inl ⟨key, hkeyGroup, hkey⟩
    | buttons => exact .inr ⟨key, hkeyGroup, hkey⟩

/-- The line of a key is low because of the key itself or because of its twin. -/
theorem lineLow_line_iff (h : Follows history bus) :
    bus.LineLow key.line ↔
      held history key = true ∧ Selected history key ∨
        held history key.twin = true ∧ Selected history key.twin := by
  rw [h.lineLow_iff key.line_lt]
  constructor
  · -- the line is shared by the key and its twin in the other group
    rintro ⟨other, hline, hother⟩
    rcases Key.line_eq_iff.mp hline with rfl | rfl
    · exact .inl hother
    · exact .inr hother
  · rintro (hself | htwin)
    · exact ⟨key, rfl, hself⟩
    · exact ⟨key.twin, key.line_twin, htwin⟩

theorem selected_press (history : List Access) (key other : Key) :
    Selected (history ++ [.press key]) other ↔ Selected history other := by
  rw [Selected, Selected, selection_concat]

/-- After a press a line is low if it was so before, or if it is that of the key and can be seen. -/
theorem lineLow_press_iff (h : Follows history bus) {line : Nat} (hline : line < 4) :
    (bus.press key).value.LineLow line ↔
      bus.LineLow line ∨ key.line = line ∧ Selected history key := by
  have hafter : Follows (history ++ [.press key]) (bus.press key).value := h.press key
  rw [hafter.lineLow_iff hline, h.lineLow_iff hline]
  simp only [selected_press, held_concat]
  constructor
  · rintro ⟨other, hother, hheld, hselected⟩
    -- of the keys held the pressed one alone may be new
    by_cases hkey : other = key
    · exact .inr ⟨hkey ▸ hother, hkey ▸ hselected⟩
    · exact .inl ⟨other, hother, by simpa [Ne.symm hkey] using hheld, hselected⟩
  · rintro (⟨other, hother, hheld, hselected⟩ | ⟨hother, hselected⟩)
    · exact ⟨other, hother, by simp [hheld], hselected⟩
    · exact ⟨key, hother, by simp, hselected⟩

/-- A press pulls a line down if it is that of its key, can be seen and was high. -/
theorem falls_press_iff (h : Follows history bus) :
    (∃ line < 4, Falls bus (bus.press key).value line) ↔
      Selected history key ∧ ¬ bus.LineLow key.line := by
  constructor
  · rintro ⟨line, hline, hhigh, hlow⟩
    -- no line falls but that of the key
    rcases (h.lineLow_press_iff hline).mp hlow with hbefore | ⟨rfl, hselected⟩
    · exact absurd hbefore hhigh
    · exact ⟨hselected, hhigh⟩
  · rintro ⟨hselected, hhigh⟩
    exact ⟨key.line, key.line_lt, hhigh,
      (h.lineLow_press_iff key.line_lt).mpr (.inr ⟨rfl, hselected⟩)⟩

theorem pressAlerts_iff (h : Follows history bus) :
    bus.joypad.pressAlerts key = true ↔ held history key = false ∧ Selected history key := by
  rw [Joypad.pressAlerts_eq, h.isDown_eq, h.isSelected_eq, Bool.and_eq_true, Bool.not_eq_true',
    Bool.not_eq_true', Selected]

/-- The joypad is alerted by a falling line, and by a line that is down for the other key. -/
theorem pressAlerts_iff_falls (h : Follows history bus) :
    bus.joypad.pressAlerts key = true ↔
      (∃ line < 4, Falls bus (bus.press key).value line) ∨ Masked history key := by
  rw [h.pressAlerts_iff, h.falls_press_iff, h.lineLow_line_iff]
  constructor
  · rintro ⟨hup, hselected⟩
    -- whether the line was low already is up to the twin
    by_cases htwin : held history key.twin = true ∧ Selected history key.twin
    · exact .inr ⟨hup, htwin.1, hselected, htwin.2⟩
    · refine .inl ⟨hselected, ?_⟩
      rintro (⟨hdown, -⟩ | hlow)
      · exact absurd (hup.symm.trans hdown) Bool.false_ne_true
      · exact htwin hlow
  · rintro (⟨hselected, hhigh⟩ | hmasked)
    · have hup : ¬ held history key = true := fun hdown => hhigh (.inl ⟨hdown, hselected⟩)
      exact ⟨Bool.eq_false_iff.mpr hup, hselected⟩
    · exact ⟨hmasked.up, hmasked.selected⟩

end Follows

/-! ## Requests in the journal -/

/-- A press notes a request exactly if the joypad is alerted. -/
theorem requested_mem_press_iff (bus : Bus) (key : Key) :
    .requested .joypad ∈ (bus.press key).journal ↔ bus.joypad.pressAlerts key = true := by
  unfold press
  cases halerts : bus.joypad.pressAlerts key with
  | true => simp [Logged.note, request, Memory.request]
  | false => simp [Logged.note]

/-- No write asks for an interrupt by itself. -/
theorem requested_not_mem_write (bus : Bus) (w : Write) (source : Interrupt) :
    .requested source ∉ (bus.write w).journal := by
  unfold write
  dsimp only
  split
  · simp
  · split
    · simp
    · split
      · simp
      · split <;> simp

/-- **Which presses request an interrupt.**  After any history, a press requests one exactly if it
pulls a line of the register down, or if it is masked: then its line is low already, for a key of
the other group.  All other presses leave the requests alone, so holding a line does not repeat
its request, and nothing else that happens to the bus makes one. -/
theorem requested_iff_falls (history : List Access) (key : Key) :
    let bus := history.foldl access powerOn.value
    let pressed := bus.press key
    let requests (bus : Bus) := bus.memory.read Address.interruptRequest
    (bus.LineLow key.line → ¬ Masked history key → requests pressed.value = requests bus) ∧
    (.requested .joypad ∈ pressed.journal ↔
      (∃ line < 4, Falls bus pressed.value line) ∨ Masked history key) ∧
    requests pressed.value =
      (if .requested .joypad ∈ pressed.journal then requests bus ||| 0x10 else requests bus) ∧
    (Masked history key → bus.LineLow key.line) ∧
    requests (bus.release key) = requests bus ∧
    ∀ w source, .requested source ∉ (bus.write w).journal := by
  intro bus pressed requests
  have hfollows : Follows history bus := follows_foldl_access history
  have hjournal := bus.requested_mem_press_iff key
  have hpress : requests pressed.value =
      if .requested .joypad ∈ pressed.journal then requests bus ||| 0x10 else requests bus := by
    simp only [pressed, hjournal]
    exact bus.requests_press key
  have hcause := hjournal.trans hfollows.pressAlerts_iff_falls
  refine ⟨fun hlow hplain => ?_, hcause, hpress, fun hmasked => ?_, ?_,
    bus.requested_not_mem_write⟩
  · have hquiet : .requested .joypad ∉ pressed.journal := by
      intro hrequested
      rcases hcause.mp hrequested with hfalls | hmasked
      · exact (hfollows.falls_press_iff.mp hfalls).2 hlow
      · exact hplain hmasked
    rw [hpress, if_neg hquiet]
  · exact hfollows.lineLow_line_iff.mpr (.inr ⟨hmasked.twin_held, hmasked.twin_selected⟩)
  · exact Memory.read_store_of_ne _ (by decide) _

/-! ## A press that is masked -/

/-- A button is held, and its request has been withdrawn. -/
def holdingA : List Access := [.press .a, .write ⟨Address.interruptRequest, 0⟩]

/-- The direction on the line of the button that is held requests an interrupt again, although no
line falls. -/
theorem requests_press_of_holdingA :
    let bus := holdingA.foldl access powerOn.value
    let pressed := (bus.press .right).value
    bus.LineLow Key.right.line ∧
      pressed.memory.read Address.joypad = bus.memory.read Address.joypad ∧
      bus.memory.read Address.interruptRequest = 0 ∧
      pressed.memory.read Address.interruptRequest = 0x10 := by
  intro bus pressed
  have hfollows : Follows holdingA bus := follows_foldl_access holdingA
  have hjoypad : bus.joypad = Joypad.press ⟨0x0F, 0x0F, 0⟩ .a := rfl
  have hplain : Plain Address.interruptRequest := .of_lt (by decide)
  have hwithdrawn : bus.memory.read Address.interruptRequest = 0 :=
    (read_write _ ⟨Address.interruptRequest, 0⟩ hplain).trans (by decide)
  have hregister : bus.memory.read Address.joypad = 0xCE := by
    rw [hfollows.shown, hjoypad]
    decide
  have hpressed : pressed.memory.read Address.joypad = 0xCE := by
    rw [bus.joypadShown_press .right, joypad_press, hjoypad]
    decide
  refine ⟨?_, hpressed.trans hregister.symm, hwithdrawn, ?_⟩
  · rw [LineLow, hregister]
    decide
  · -- the request is made although the register shows no change
    have hrequests := bus.requests_press .right
    rw [hwithdrawn, hjoypad] at hrequests
    exact hrequests.trans (by decide)

end Bus

end GameBoy
